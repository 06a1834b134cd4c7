import TrishulSnmp.Library.PyText

namespace PyText

section Stripping

variable {strips : Char → Bool} {text : List Char}

theorem lstrip_of_head (h : ∀ c ∈ text.head?, strips c = false) : lstrip strips text = text := by
  cases text with
  | nil => rfl
  | cons c rest => exact List.dropWhile_cons_of_neg (by simp [h c rfl])

theorem rstrip_of_none (h : ∀ c ∈ text, strips c = false) : rstrip strips text = text := by
  have hreverse : lstrip strips text.reverse = text.reverse := by
    apply lstrip_of_head
    intro c hc
    exact h c (List.mem_reverse.mp (List.mem_of_mem_head? hc))
  rw [rstrip, show text.reverse.dropWhile strips = text.reverse from hreverse, List.reverse_reverse]

theorem strip_of_none (h : ∀ c ∈ text, isSpace c = false) : strip text = text := by
  rw [strip, lstrip_of_head fun c hc => h c (List.mem_of_mem_head? hc), rstrip_of_none h]

end Stripping

section Digits

theorem isDigit_range {c : Char} (h : c.isDigit) : 48 ≤ c.toNat ∧ c.toNat < 58 := by
  simp only [Char.isDigit, Bool.and_eq_true, decide_eq_true_eq] at h
  obtain ⟨hlow, hhigh⟩ := h
  have hlow' : 48 ≤ c.val.toNat := hlow
  have hhigh' : c.val.toNat ≤ 57 := hhigh
  exact ⟨hlow', by change c.val.toNat < 58; omega⟩

theorem decimal?_isDigit {c : Char} (h : c.isDigit) : decimal? c = some (c.toNat - 48) := by
  obtain ⟨hlow, hhigh⟩ := isDigit_range h
  have hfind : decimalZeros.find? (fun first => first ≤ c.toNat && c.toNat < first + 10) = some 48 :=
    List.find?_cons_of_pos (by simp [hlow, hhigh])
  rw [decimal?, hfind]
  rfl

theorem isSpace_isDigit {c : Char} (h : c.isDigit) : isSpace c = false := by
  obtain ⟨hlow, hhigh⟩ := isDigit_range h
  simp only [isSpace, Bool.or_eq_false_iff, Bool.and_eq_false_imp, decide_eq_true_eq, decide_eq_false_iff_not,
    beq_eq_false_iff_ne, ne_eq]
  omega

theorem parseDigits_isDigit {text : List Char} (hne : text ≠ []) (h : ∀ c ∈ text, c.isDigit) :
    parseDigits text = some (text.map fun c => c.toNat - 48) := by
  induction text with
  | nil => exact absurd rfl hne
  | cons c rest ih =>
    obtain ⟨hc, hrest⟩ := List.forall_mem_cons.mp h
    cases rest with
    | nil => simp [parseDigits, decimal?_isDigit hc]
    | cons d rest =>
      have hd : d ≠ '_' := by
        rintro rfl
        exact absurd (hrest '_' (List.mem_cons_self ..)) (by decide)
      simp [parseDigits, hd, decimal?_isDigit hc, ih (List.cons_ne_nil d rest) hrest]

theorem digitsValue_isDigit (text : List Char) :
    digitsValue (text.map fun c => c.toNat - 48) = Nat.ofDigitChars 10 text 0 := by
  rw [digitsValue, List.foldl_map, Nat.ofDigitChars_eq_foldl]
  congr
  funext value c
  rw [Nat.mul_comm]
  rfl

section Ascii

variable {text : List Char} (hne : text ≠ []) (h : ∀ c ∈ text, c.isDigit)

include hne h

theorem parseNat_isDigit : parseNat text =
    if text.length ≤ maxStrDigits then some (Nat.ofDigitChars 10 text 0) else none := by
  rw [parseNat, parseDigits_isDigit hne h, Option.bind_eq_bind, Option.bind_some, List.length_map, digitsValue_isDigit,
    Option.pure_def]
  by_cases hlength : text.length ≤ maxStrDigits
  · rw [if_neg (Nat.not_lt.mpr hlength), if_pos hlength]
  · rw [if_pos (Nat.not_le.mp hlength), if_neg hlength]

theorem parseInt_isDigit : parseInt text =
    if text.length ≤ maxStrDigits then some ((Nat.ofDigitChars 10 text 0 : ℕ) : ℤ) else none := by
  have hspace : ∀ c ∈ text, isIntSpace c = false := by
    intro c hc
    rw [isIntSpace, isSpace_isDigit (h c hc), Bool.false_and]
  rw [parseInt, lstrip_of_head fun c hc => hspace c (List.mem_of_mem_head? hc), rstrip_of_none hspace]
  split
  · exact absurd (h '-' (List.mem_cons_self ..)) (by decide)
  · exact absurd (h '+' (List.mem_cons_self ..)) (by decide)
  · rw [parseNat_isDigit hne h]
    split_ifs <;> rfl

theorem allDigits_isDigit : allDigits text := by
  have hdigits : ∀ c ∈ text, isDigit c := by
    intro c hc
    rw [isDigit, decimal?_isDigit (h c hc)]
    rfl
  simpa [allDigits, hne] using hdigits

end Ascii

theorem isDigit_natText {n : ℕ} : ∀ c ∈ natText n, c.isDigit :=
  fun _ hc => Nat.isDigit_of_mem_toDigits (by decide) (by decide) hc

theorem natText_ne_nil (n : ℕ) : natText n ≠ [] := Nat.toDigits_ne_nil

theorem parseInt_natText {n : ℕ} (h : (natText n).length ≤ maxStrDigits) : parseInt (natText n) = some (n : ℤ) := by
  rw [parseInt_isDigit (natText_ne_nil n) isDigit_natText, if_pos h, natText, Nat.ofDigitChars_ten_toDigits]

theorem allDigits_natText (n : ℕ) : allDigits (natText n) := allDigits_isDigit (natText_ne_nil n) isDigit_natText

def dotted (ns : List ℕ) : List Char := joinDot (ns.map natText)

theorem splitDot_dotted {ns : List ℕ} (hne : ns ≠ []) : splitDot (dotted ns) = ns.map natText := by
  apply splitDot_joinDot
  · simpa using hne
  · rw [List.forall_mem_map]
    intro n _ hdot
    exact absurd (isDigit_natText _ hdot) (by decide)

theorem dotted_cons (n : ℕ) (ns : List ℕ) : ∃ rest, dotted (n :: ns) = natText n ++ rest := by
  cases ns with
  | nil => exact ⟨[], by simp [dotted, joinDot]⟩
  | cons m ns => exact ⟨'.' :: dotted (m :: ns), by simp [dotted, joinDot]⟩

theorem dotted_ne_nil {ns : List ℕ} (hne : ns ≠ []) : dotted ns ≠ [] := by
  cases ns with
  | nil => exact absurd rfl hne
  | cons n ns =>
    obtain ⟨rest, hrest⟩ := dotted_cons n ns
    simp [hrest, natText_ne_nil]

theorem isSpace_dotted (ns : List ℕ) : ∀ c ∈ dotted ns, isSpace c = false := by
  induction ns with
  | nil => exact fun c hc => absurd hc List.not_mem_nil
  | cons n ns ih =>
    have hn : ∀ c ∈ natText n, isSpace c = false := fun c hc => isSpace_isDigit (isDigit_natText c hc)
    cases ns with
    | nil => simpa [dotted, joinDot] using hn
    | cons m ns =>
      intro c hc
      have hc' : c ∈ natText n ∨ c = '.' ∨ c ∈ dotted (m :: ns) := by simpa [dotted, joinDot] using hc
      rcases hc' with hc | rfl | hc
      · exact hn c hc
      · decide
      · exact ih c hc

theorem lstrip_dotted (ns : List ℕ) : lstrip (· == '.') (dotted ns) = dotted ns := by
  cases ns with
  | nil => rfl
  | cons n ns =>
    obtain ⟨rest, hrest⟩ := dotted_cons n ns
    apply lstrip_of_head
    intro c hc
    rw [hrest, List.head?_append_of_ne_nil _ (natText_ne_nil n)] at hc
    have hdigit := isDigit_natText c (List.mem_of_mem_head? hc)
    rw [beq_eq_false_iff_ne]
    rintro rfl
    exact absurd hdigit (by decide)

end Digits

section Partition

variable {sep text rest : List Char}

theorem partition_append (hne : sep ≠ [])
    (h : ∀ before after, text = before ++ after → after ≠ [] → ¬ sep <+: after ++ sep ++ rest) :
    partition sep (text ++ sep ++ rest) = some (text, rest) := by
  induction text with
  | nil =>
    cases sep with
    | nil => exact absurd rfl hne
    | cons c sep =>
      rw [List.nil_append, List.cons_append, partition, if_pos]
      · rw [← List.cons_append, List.drop_left]
      · rw [List.isPrefixOf_iff_prefix, ← List.cons_append]
        exact List.prefix_append _ _
  | cons c text ih =>
    have hhere := h [] (c :: text) rfl (List.cons_ne_nil c text)
    rw [List.cons_append, List.cons_append] at hhere ⊢
    rw [partition, if_neg (by rwa [List.isPrefixOf_iff_prefix]), ih fun before after heq hafter =>
      h (c :: before) after (by rw [heq]; rfl) hafter]
    rfl

theorem partition_dot (h : '.' ∉ text) : partition ['.'] (text ++ ['.'] ++ rest) = some (text, rest) := by
  apply partition_append (List.cons_ne_nil _ _)
  rintro before (_ | ⟨c, after⟩) rfl hafter hprefix
  · exact hafter rfl
  · rw [List.cons_append, List.cons_append, List.cons_prefix_cons] at hprefix
    obtain ⟨rfl, -⟩ := hprefix
    apply h
    simp

theorem partition_dot_none (h : '.' ∉ text) : partition ['.'] text = none := by
  induction text with
  | nil => rfl
  | cons c text ih =>
    obtain ⟨hc, htext⟩ := not_or.mp (mt List.mem_cons.mpr h)
    rw [partition, if_neg, ih htext]
    · rfl
    · rw [List.isPrefixOf_iff_prefix, List.cons_prefix_cons]
      exact fun hprefix => hc hprefix.1

theorem partition_colons (h : ¬ [':', ':'] <:+: text) (hend : text.getLast? ≠ some ':') :
    partition [':', ':'] (text ++ [':', ':'] ++ rest) = some (text, rest) := by
  apply partition_append (List.cons_ne_nil _ _)
  rintro before (_ | ⟨c, _ | ⟨d, after⟩⟩) rfl hafter hprefix
  · exact hafter rfl
  · rw [List.cons_append, List.cons_append, List.cons_prefix_cons] at hprefix
    apply hend
    rw [← hprefix.1, List.getLast?_append, List.getLast?_singleton, Option.some_or]
  · rw [List.cons_append, List.cons_append, List.cons_prefix_cons, List.cons_append, List.cons_append,
      List.cons_prefix_cons] at hprefix
    obtain ⟨rfl, rfl, -⟩ := hprefix
    exact h ⟨before, after, by simp⟩

end Partition

end PyText
