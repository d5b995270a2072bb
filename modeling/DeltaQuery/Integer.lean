namespace DeltaQuery

-- No integer wraps: one that does not fit has no 64-bit form.
def integer? (i : Int) : Option Int64 :=
  if -(2 ^ 63) ≤ i ∧ i < 2 ^ 63 then some (Int64.ofInt i) else none

theorem eq_ofInt_of_integer? {i : Int} {word : Int64} (fits : integer? i = some word) : word = Int64.ofInt i := by
  unfold integer? at fits
  split at fits
  next => exact (Option.some.inj fits).symm
  next => cases fits

theorem toInt_of_integer? {i : Int} {word : Int64} (fits : integer? i = some word) : word.toInt = i := by
  unfold integer? at fits
  split at fits
  next inRange =>
    cases fits
    exact Int64.toInt_ofInt_of_le (by omega) (by omega)
  next => cases fits

theorem integer?_toInt (word : Int64) : integer? word.toInt = some word := by
  have low := Int64.le_toInt word
  have high := Int64.toInt_lt word
  unfold integer?
  rw [if_pos ⟨by omega, by omega⟩, Int64.ofInt_toInt]

end DeltaQuery
