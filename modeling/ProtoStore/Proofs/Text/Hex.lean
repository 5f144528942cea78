import ProtoStore.Text.Hex

/-!
# Hexadecimal digits read back

* `value?_digit` : a digit has the value it was written for;
* `number?_digits` : so has a number of a fixed count of digits, whatever was read before it.
-/

namespace ProtoStore.Text.Hex

theorem value?_digit {n : Nat} (h : n < 16) : value? (digit n) = some n := by
  have all : ∀ k : Fin 16, value? (digit k) = some k.val := by decide
  exact all ⟨n, h⟩

@[simp] theorem length_digits (count n : Nat) : (digits count n).length = count := by
  induction count generalizing n with
  | zero => rfl
  | succ count ih => rw [digits, List.length_append, ih, List.length_singleton]

/-- Every digit is a digit of a value below sixteen. -/
theorem exists_of_mem_digits {count n : Nat} {c : Char} (h : c ∈ digits count n) :
    ∃ k < 16, c = digit k := by
  induction count generalizing n with
  | zero => cases h
  | succ count ih =>
    rw [digits, List.mem_append, List.mem_singleton] at h
    rcases h with h | rfl
    · exact ih h
    · exact ⟨n % 16, Nat.mod_lt _ (by decide), rfl⟩

theorem number?_append (n : Nat) (a b : List Char) :
    number? n (a ++ b) = (number? n a).bind fun m => number? m b := by
  induction a generalizing n with
  | nil => rfl
  | cons c a ih =>
    rw [List.cons_append, number?, number?]
    cases value? c with
    | none => rfl
    | some d => exact ih _

theorem number?_digits (before count n : Nat) :
    number? before (digits count n) = some (before * Nat.pow 16 count + n % Nat.pow 16 count) := by
  change number? before (digits count n) = some (before * 16 ^ count + n % 16 ^ count)
  induction count generalizing n with
  | zero => simp [digits, number?, Nat.mod_one]
  | succ count ih =>
    have hd := value?_digit (Nat.mod_lt n (by decide : 0 < 16))
    have hn : n % 16 ^ (count + 1) = n / 16 % 16 ^ count * 16 + n % 16 := by
      rw [Nat.pow_succ, Nat.mul_comm, Nat.mod_mul]
      omega
    rw [digits, number?_append, ih, Option.bind_some, number?, hd, Option.bind_some, number?, hn,
      Nat.pow_succ, Nat.add_mul, Nat.mul_assoc, Nat.add_assoc]

end ProtoStore.Text.Hex
