import TrishulSnmp.Library.DecimalText

namespace PyText

inductive Grouped : List Char → List ℕ → Prop
  | last {c : Char} {d : ℕ} : decimal? c = some d → Grouped [c] [d]
  | next {c : Char} {d : ℕ} {text : List Char} {digits : List ℕ} :
      decimal? c = some d → Grouped text digits → Grouped (c :: text) (d :: digits)
  | underscore {c : Char} {d : ℕ} {text : List Char} {digits : List ℕ} :
      decimal? c = some d → Grouped text digits → Grouped (c :: '_' :: text) (d :: digits)

inductive Sign : List Char → ℤ → Prop
  | absent : Sign [] 1
  | plus : Sign ['+'] 1
  | minus : Sign ['-'] (-1)

inductive IntLiteral : List Char → ℤ → Prop
  | mk {before sign body after : List Char} {s : ℤ} {digits : List ℕ} : (∀ c ∈ before, isIntSpace c) → Sign sign s →
      Grouped body digits → digits.length ≤ maxStrDigits → (∀ c ∈ after, isIntSpace c) →
      IntLiteral (before ++ (sign ++ body) ++ after) (s * digitsValue digits)

section Stripping

variable {strips : Char → Bool} {before text after : List Char}

theorem stripped_decompose (strips : Char → Bool) (text : List Char) : ∃ before after,
    text = before ++ rstrip strips (lstrip strips text) ++ after ∧ (∀ c ∈ before, strips c) ∧
    ∀ c ∈ after, strips c := by
  refine ⟨text.takeWhile strips, ((lstrip strips text).reverse.takeWhile strips).reverse, ?_, ?_, ?_⟩
  · rw [rstrip, List.append_assoc, ← List.reverse_append, List.takeWhile_append_dropWhile, List.reverse_reverse, lstrip,
      List.takeWhile_append_dropWhile]
  · exact List.all_eq_true.mp List.all_takeWhile
  · exact fun c hc => List.all_eq_true.mp List.all_takeWhile c (List.mem_reverse.mp hc)

theorem lstrip_append (hbefore : ∀ c ∈ before, strips c) : lstrip strips (before ++ text) = lstrip strips text :=
  List.dropWhile_append_of_pos hbefore

theorem stripped_append (hbefore : ∀ c ∈ before, strips c) (hafter : ∀ c ∈ after, strips c) (hne : text ≠ [])
    (hfirst : ∀ c ∈ text.head?, strips c = false) (hlast : ∀ c ∈ text.getLast?, strips c = false) :
    rstrip strips (lstrip strips (before ++ text ++ after)) = text := by
  have hleft : lstrip strips (before ++ text ++ after) = text ++ after := by
    rw [List.append_assoc, lstrip_append hbefore]
    apply lstrip_of_head
    intro c hc
    rw [List.head?_append_of_ne_nil _ hne] at hc
    exact hfirst c hc
  have hright : lstrip strips (text ++ after).reverse = text.reverse := by
    rw [List.reverse_append, lstrip_append fun c hc => hafter c (List.mem_reverse.mp hc)]
    apply lstrip_of_head
    intro c hc
    rw [List.head?_reverse] at hc
    exact hlast c hc
  rw [hleft, rstrip, show (text ++ after).reverse.dropWhile strips = text.reverse from hright, List.reverse_reverse]

end Stripping

section Digits

variable {c : Char} {d : ℕ} {text : List Char} {digits : List ℕ}

theorem decimal?_zero (h : decimal? c = some d) : ∃ first ∈ decimalZeros, ∃ k < 10, c.toNat = first + k := by
  obtain ⟨first, hfind, -⟩ := Option.map_eq_some_iff.mp h
  have hrange := List.find?_some hfind
  rw [Bool.and_eq_true, decide_eq_true_eq, decide_eq_true_eq] at hrange
  exact ⟨first, List.mem_of_find?_eq_some hfind, c.toNat - first, by omega, by omega⟩

theorem decimal_apart : ∀ first ∈ decimalZeros, ∀ k < 10, let n := first + k
    ¬ ((0x09 ≤ n ∧ n ≤ 0x0D) ∨ (0x1C ≤ n ∧ n ≤ 0x20) ∨ n = 0x85 ∨ n = 0xA0 ∨ n = 0x1680 ∨ (0x2000 ≤ n ∧ n ≤ 0x200A) ∨
      n = 0x2028 ∨ n = 0x2029 ∨ n = 0x202F ∨ n = 0x205F ∨ n = 0x3000 ∨ n = 0x2B ∨ n = 0x2D ∨ n = 0x5F) := by
  decide +kernel

theorem isIntSpace_decimal (h : decimal? c = some d) : isIntSpace c = false := by
  obtain ⟨first, hfirst, k, hk, hc⟩ := decimal?_zero h
  have hapart := decimal_apart first hfirst k hk
  simp only [← hc] at hapart
  simp only [isIntSpace, isSpace, Bool.and_eq_false_imp, Bool.or_eq_true, Bool.and_eq_true, decide_eq_true_eq,
    beq_iff_eq]
  omega

theorem sign_decimal (h : decimal? c = some d) : c ≠ '-' ∧ c ≠ '+' ∧ c ≠ '_' := by
  obtain ⟨first, hfirst, k, hk, hc⟩ := decimal?_zero h
  have hapart := decimal_apart first hfirst k hk
  simp only [← hc] at hapart
  refine ⟨?_, ?_, ?_⟩
  · rintro rfl
    exact absurd hapart (by decide)
  · rintro rfl
    exact absurd hapart (by decide)
  · rintro rfl
    exact absurd hapart (by decide)

theorem parseDigits_sound (h : parseDigits text = some digits) : Grouped text digits := by
  fun_induction parseDigits text generalizing digits with
  | case1 => cases h
  | case2 c =>
    obtain ⟨d, hd, rfl⟩ := Option.map_eq_some_iff.mp h
    exact .last hd
  | case3 c rest ih =>
    obtain ⟨d, hd, h⟩ := Option.bind_eq_some_iff.mp h
    obtain ⟨ds, hds, h⟩ := Option.bind_eq_some_iff.mp h
    cases h
    exact .underscore hd (ih hds)
  | case4 c rest hne hrest ih =>
    obtain ⟨d, hd, h⟩ := Option.bind_eq_some_iff.mp h
    obtain ⟨ds, hds, h⟩ := Option.bind_eq_some_iff.mp h
    cases h
    exact .next hd (ih hds)

theorem Grouped.head (h : Grouped text digits) : ∃ c rest d, text = c :: rest ∧ decimal? c = some d := by
  cases h with
  | last hd => exact ⟨_, _, _, rfl, hd⟩
  | next hd => exact ⟨_, _, _, rfl, hd⟩
  | underscore hd => exact ⟨_, _, _, rfl, hd⟩

theorem Grouped.getLast (h : Grouped text digits) : ∃ c d, text.getLast? = some c ∧ decimal? c = some d := by
  induction h with
  | last hd => exact ⟨_, _, rfl, hd⟩
  | next _ hgrouped ih =>
    obtain ⟨c, d, hlast, hd⟩ := ih
    exact ⟨c, d, by rw [List.getLast?_cons, hlast]; rfl, hd⟩
  | underscore _ hgrouped ih =>
    obtain ⟨c, d, hlast, hd⟩ := ih
    exact ⟨c, d, by rw [List.getLast?_cons, List.getLast?_cons, hlast]; rfl, hd⟩

theorem parseDigits_complete (h : Grouped text digits) : parseDigits text = some digits := by
  induction h with
  | last hd => simp [parseDigits, hd]
  | next hd hgrouped ih =>
    obtain ⟨c, rest, d, rfl, hc⟩ := hgrouped.head
    have hunderscore : c ≠ '_' := (sign_decimal hc).2.2
    simp [parseDigits, hunderscore, hd, ih]
  | underscore hd _ ih => simp [parseDigits, hd, ih]

theorem parseNat_iff {n : ℕ} : parseNat text = some n ↔
    ∃ digits, Grouped text digits ∧ digits.length ≤ maxStrDigits ∧ n = digitsValue digits := by
  constructor
  · intro h
    obtain ⟨digits, hdigits, h⟩ := Option.bind_eq_some_iff.mp h
    split_ifs at h with hlong
    cases h
    exact ⟨digits, parseDigits_sound hdigits, by omega, rfl⟩
  · rintro ⟨digits, hgrouped, hle, rfl⟩
    rw [parseNat, parseDigits_complete hgrouped]
    simp [Nat.not_lt.mpr hle]

end Digits

section Literals

variable {before sign body after : List Char} {s : ℤ}

theorem IntLiteral.ne_nil {text : List Char} {n : ℤ} (h : IntLiteral text n) : text ≠ [] := by
  obtain ⟨-, -, hgrouped, -, -⟩ := h
  obtain ⟨c, rest, d, rfl, -⟩ := hgrouped.head
  simp

theorem IntLiteral.of_parseNat {n : ℕ} (hbefore : ∀ c ∈ before, isIntSpace c) (hsign : Sign sign s)
    (h : parseNat body = some n) (hafter : ∀ c ∈ after, isIntSpace c) :
    IntLiteral (before ++ (sign ++ body) ++ after) (s * n) := by
  obtain ⟨digits, hgrouped, hle, rfl⟩ := parseNat_iff.mp h
  exact .mk hbefore hsign hgrouped hle hafter

theorem signed_some_iff {s n : ℤ} : (Option.map (fun m : ℤ => s * m) (do return (↑(← parseNat body) : ℤ))) = some n ↔
    ∃ m : ℕ, parseNat body = some m ∧ n = s * m := by
  cases parseNat body with
  | none => simp
  | some m => simp [eq_comm]

theorem parseInt_eq {text : List Char} : parseInt text = match rstrip isIntSpace (lstrip isIntSpace text) with
    | '-' :: rest => Option.map (fun m : ℤ => -1 * m) (do return (↑(← parseNat rest) : ℤ))
    | '+' :: rest => Option.map (fun m : ℤ => 1 * m) (do return (↑(← parseNat rest) : ℤ))
    | rest => Option.map (fun m : ℤ => 1 * m) (do return (↑(← parseNat rest) : ℤ)) := by
  simp only [Int.neg_mul, Int.one_mul]
  rfl

theorem parseInt_sound {text : List Char} {n : ℤ} (h : parseInt text = some n) : IntLiteral text n := by
  obtain ⟨before, after, htext, hbefore, hafter⟩ := stripped_decompose isIntSpace text
  rw [parseInt_eq] at h
  rw [htext]
  generalize rstrip isIntSpace (lstrip isIntSpace text) = middle at h htext ⊢
  split at h
  · obtain ⟨m, hm, rfl⟩ := signed_some_iff.mp h
    exact .of_parseNat hbefore .minus hm hafter
  · obtain ⟨m, hm, rfl⟩ := signed_some_iff.mp h
    exact .of_parseNat hbefore .plus hm hafter
  · obtain ⟨m, hm, rfl⟩ := signed_some_iff.mp h
    exact .of_parseNat hbefore .absent hm hafter

theorem stripped_literal {digits : List ℕ} (hbefore : ∀ c ∈ before, isIntSpace c) (hsign : Sign sign s)
    (hgrouped : Grouped body digits) (hafter : ∀ c ∈ after, isIntSpace c) :
    rstrip isIntSpace (lstrip isIntSpace (before ++ (sign ++ body) ++ after)) = sign ++ body := by
  obtain ⟨c, rest, d, rfl, hc⟩ := hgrouped.head
  obtain ⟨last, d', hlast, hd'⟩ := hgrouped.getLast
  apply stripped_append hbefore hafter
  · simp
  · cases hsign with
    | absent => simpa using isIntSpace_decimal hc
    | plus => simp; decide
    | minus => simp; decide
  · rw [List.getLast?_append, hlast]
    simpa using isIntSpace_decimal hd'

theorem parseInt_complete {text : List Char} {n : ℤ} (h : IntLiteral text n) : parseInt text = some n := by
  obtain ⟨hbefore, hsign, hgrouped, hle, hafter⟩ := h
  have hnat := parseNat_iff.mpr ⟨_, hgrouped, hle, rfl⟩
  rw [parseInt_eq, stripped_literal hbefore hsign hgrouped hafter]
  obtain ⟨c, rest, d, rfl, hc⟩ := hgrouped.head
  obtain ⟨hminus, hplus, -⟩ := sign_decimal hc
  cases hsign with
  | absent => simp [hminus, hplus, hnat]
  | plus => simp [hnat]
  | minus => simp [hnat]

theorem parseInt_iff {text : List Char} {n : ℤ} : parseInt text = some n ↔ IntLiteral text n :=
  ⟨parseInt_sound, parseInt_complete⟩

end Literals

end PyText
