import MeshSidecar.Text.Decimal

namespace MeshSidecar.Text

/-!
# Digits and the numbers they stand for

The decimal text of a number is produced from its last digit to its first, and
read from the first to the last.  The equation `digits_of_ten_le` takes one digit
off the end, and all that is said about digits here follows it.
-/

/-- Digits already produced do not matter to those that follow, and fuel beyond
the number itself is never used. -/
theorem digitsOnto_eq (fuel n : Nat) (enough : n < fuel) (done : List Char) :
    digitsOnto fuel n done = digits n ++ done := by
  have uniform : ∀ n fuel fuel', n < fuel → n < fuel' → ∀ done : List Char,
      digitsOnto fuel n done = digitsOnto fuel' n [] ++ done := by
    intro n
    induction n using Nat.strongRecOn with
    | _ n ih =>
        intro fuel fuel' enough enough' done
        obtain ⟨fuel, rfl⟩ : ∃ k, fuel = k + 1 := ⟨fuel - 1, by omega⟩
        obtain ⟨fuel', rfl⟩ : ∃ k, fuel' = k + 1 := ⟨fuel' - 1, by omega⟩
        by_cases small : n < 10
        · simp [digitsOnto, small]
        · have smaller : n / 10 < n := by omega
          have first := ih _ smaller fuel fuel' (by omega) (by omega) (digitChar (n % 10) :: done)
          have second := ih _ smaller fuel' fuel' (by omega) (by omega) [digitChar (n % 10)]
          simp [digitsOnto, small, first, second]
  exact uniform n fuel (n + 1) enough (by omega) done

theorem digits_of_lt_ten {n : Nat} (small : n < 10) : digits n = [digitChar n] := by
  simp [digits, digitsOnto, small, Nat.mod_eq_of_lt small]

theorem digits_of_ten_le {n : Nat} (large : 10 ≤ n) :
    digits n = digits (n / 10) ++ [digitChar (n % 10)] := by
  have notSmall : ¬ n < 10 := by omega
  rw [digits, digitsOnto]
  simp only [notSmall, if_false]
  exact digitsOnto_eq n (n / 10) (by omega) _

theorem digits_ne_nil (n : Nat) : digits n ≠ [] := by
  by_cases small : n < 10
  · simp [digits_of_lt_ten small]
  · simp [digits_of_ten_le (Nat.le_of_not_lt small)]

theorem isDigit_digitChar {d : Nat} (small : d < 10) : (digitChar d).isDigit := by
  have all : ∀ d : Fin 10, (digitChar d).isDigit := by decide
  exact all ⟨d, small⟩

theorem toNat_digitChar {d : Nat} (small : d < 10) : (digitChar d).toNat - '0'.toNat = d := by
  have all : ∀ d : Fin 10, (digitChar d).toNat - '0'.toNat = d := by decide
  exact all ⟨d, small⟩

theorem isDigit_of_mem_digits (n : Nat) : ∀ c ∈ digits n, c.isDigit := by
  induction n using Nat.strongRecOn with
  | _ n ih =>
      intro c member
      by_cases small : n < 10
      · rw [digits_of_lt_ten small, List.mem_singleton] at member
        exact member ▸ isDigit_digitChar small
      · rw [digits_of_ten_le (Nat.le_of_not_lt small), List.mem_append] at member
        rcases member with earlier | last
        · exact ih (n / 10) (by omega) c earlier
        · rw [List.mem_singleton] at last
          exact last ▸ isDigit_digitChar (Nat.mod_lt n (by decide))

theorem digitsValue_append_singleton (cs : List Char) (c : Char) :
    digitsValue (cs ++ [c]) = 10 * digitsValue cs + (c.toNat - '0'.toNat) := by
  simp [digitsValue]

/-- The digits of a number stand for it. -/
theorem digitsValue_digits (n : Nat) : digitsValue (digits n) = n := by
  induction n using Nat.strongRecOn with
  | _ n ih =>
      by_cases small : n < 10
      · rw [digits_of_lt_ten small]
        simpa [digitsValue] using toNat_digitChar small
      · rw [digits_of_ten_le (Nat.le_of_not_lt small), digitsValue_append_singleton,
          ih (n / 10) (by omega), toNat_digitChar (Nat.mod_lt n (by decide))]
        omega

theorem hexValue?_digitChar {d : Nat} (small : d < 10) : hexValue? (digitChar d) = some d := by
  have all : ∀ d : Fin 10, hexValue? (digitChar d) = some d.val := by decide
  exact all ⟨d, small⟩

/-- The digits of a number are read as it. -/
theorem valueInBase?_digits (n : Nat) : valueInBase? 10 (digits n) = some n := by
  rw [valueInBase?, if_neg (by simpa using digits_ne_nil n)]
  induction n using Nat.strongRecOn with
  | _ n ih =>
      by_cases small : n < 10
      · simp [digits_of_lt_ten small, hexValue?_digitChar small, small]
      · have smallDigit : n % 10 < 10 := Nat.mod_lt n (by decide)
        have together : 10 * (n / 10) + n % 10 = n := by omega
        rw [digits_of_ten_le (Nat.le_of_not_lt small), List.foldlM_append, ih (n / 10) (by omega)]
        simp [hexValue?_digitChar smallDigit, smallDigit, together]

theorem not_mem_digits {c : Char} (other : c.isDigit = false) (n : Nat) : c ∉ digits n := by
  intro member
  rw [isDigit_of_mem_digits n c member] at other
  cases other

/-- Only the number zero begins with the digit zero. -/
theorem head?_digits {n : Nat} (leading : (digits n).head? = some '0') : n = 0 := by
  induction n using Nat.strongRecOn with
  | _ n ih =>
      by_cases small : n < 10
      · have all : ∀ d : Fin 10, digitChar d = '0' → d.val = 0 := by decide
        rw [digits_of_lt_ten small, List.head?_singleton, Option.some_inj] at leading
        exact all ⟨n, small⟩ leading
      · obtain ⟨c, cs, same⟩ := List.exists_cons_of_ne_nil (digits_ne_nil (n / 10))
        rw [digits_of_ten_le (Nat.le_of_not_lt small), same] at leading
        have quotient := ih (n / 10) (by omega) (by rw [same]; exact leading)
        omega

theorem digits_zero : digits 0 = ['0'] := by
  decide

end MeshSidecar.Text
