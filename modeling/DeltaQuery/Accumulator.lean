import DeltaQuery.Accumulator.Arrival
import DeltaQuery.Accumulator.Extremum
import DeltaQuery.Accumulator.Sum

namespace DeltaQuery

-- A distinct aggregate counts the copies of each value and passes on only the first copy in and the last one out.
inductive Accumulator
  | avg (sum : Sum)
  | count (live : LiveValues)
  | sum (sum : Sum)
  | arrival (order : ArrivalOrder)
  | ordered (held : OrderedExtremum)
  | rescan (held : RescanExtremum)
  | distinct (live : LiveValues) (inner : Accumulator)

namespace Accumulator

def extremum (extreme : Extreme) : ExtremumStrategy → Accumulator
  | .ordered => .ordered { extreme }
  | .rescan => .rescan { extreme }

def fresh (strategy : ExtremumStrategy) : Aggregate → Accumulator
  | .avg => .avg {}
  | .avgDistinct => .distinct {} (.avg {})
  | .count => .count {}
  | .countDistinct => .distinct {} (.count {})
  | .first => .arrival { wanted := .first }
  | .last => .arrival { wanted := .last }
  | .max => extremum .max strategy
  | .min => extremum .min strategy
  | .sum => .sum {}
  | .sumDistinct => .distinct {} (.sum {})

def checkIncorporate (value : Value) : Accumulator → Except Cause Unit
  | .avg running => running.checkIncorporate value
  | .sum running => running.checkIncorporate value
  | .count _ => .ok ()
  | .arrival _ => .ok ()
  | .ordered _ => .ok ()
  | .rescan _ => .ok ()
  | .distinct live inner =>
    if live.multiplicity value = 0 then inner.checkIncorporate value else .ok ()

def incorporate (value : Value) : Accumulator → Attempt Cause Accumulator Unit
  | .avg running => (running.incorporate value).map .avg
  | .sum running => (running.incorporate value).map .sum
  | .count live => .done (.count (live.insert value)) ()
  | .arrival order => .done (.arrival (order.incorporate value)) ()
  | .ordered held => .done (.ordered (held.incorporate value)) ()
  | .rescan held => .done (.rescan (held.incorporate value)) ()
  | .distinct live inner =>
    if live.multiplicity value = 0 then
      (inner.incorporate value).settle (.distinct live) (.distinct (live.insert value))
    else .done (.distinct (live.insert value) inner) ()

def checkUndo (value : Value) : Accumulator → Except Cause Unit
  | .avg running => running.checkUndo value
  | .sum running => running.checkUndo value
  | .count live => if live.multiplicity value = 0 then .error (.neverSaw .count value) else .ok ()
  | .arrival order => order.checkUndo value
  | .ordered held => held.checkUndo value
  | .rescan held => held.checkUndo value
  | .distinct live inner =>
    match live.multiplicity value with
    | 0 => .error (.neverIncorporated value)
    | 1 => inner.checkUndo value
    | _ => .ok ()

def undo (value : Value) : Accumulator → Attempt Cause Accumulator Unit
  | .avg running => (running.undo value).map .avg
  | .sum running => (running.undo value).map .sum
  | .count live =>
    if live.multiplicity value = 0 then .failed (.count live) (.neverSaw .count value)
    else .done (.count (live.erase value)) ()
  | .arrival order => (order.undo value).map .arrival
  | .ordered held => (held.undo value).map .ordered
  | .rescan held => (held.undo value).map .rescan
  | .distinct live inner =>
    match checkUndo value (.distinct live inner) with
    | .error cause => .failed (.distinct live inner) cause
    | .ok () =>
      if live.multiplicity value = 1 then
        (inner.undo value).settle (.distinct live) (.distinct (live.erase value))
      else .done (.distinct (live.erase value) inner) ()

def current : Accumulator → Except Cause Value
  | .avg running => running.average
  | .sum running => running.current
  | .count live => .ok (.int (Int64.ofNat live.size))
  | .arrival order => order.current
  | .ordered held => held.current
  | .rescan held => held.current
  | .distinct _ inner => inner.current

end Accumulator

end DeltaQuery
