import Mathlib.Data.List.DropRight
import Mathlib.Data.Nat.Digits

namespace FleetFreeScout

/-- strings.TrimRight: drops the trailing characters that occur in the cutset. -/
def trimRight (s cutset : String) : String :=
  ⟨s.data.rdropWhile (fun c => decide (c ∈ cutset.data))⟩

theorem trimRight_idempotent (s cutset : String) :
    trimRight (trimRight s cutset) cutset = trimRight s cutset := by
  simp only [trimRight, List.rdropWhile_idempotent]

/-- unicode.IsSpace: the Latin-1 spaces and the other White_Space code points. -/
def isSpace (c : Char) : Bool :=
  decide (c.toNat ∈ [0x09, 0x0A, 0x0B, 0x0C, 0x0D, 0x20, 0x85, 0xA0, 0x1680, 0x2028,
    0x2029, 0x202F, 0x205F, 0x3000]) || (0x2000 ≤ c.toNat && c.toNat ≤ 0x200A)

/-- strings.TrimSpace. -/
def trimSpace (s : String) : String :=
  ⟨(s.data.dropWhile isSpace).rdropWhile isSpace⟩

/-- The number a list of decimal digit characters spells. -/
def decimalValue (cs : List Char) : Nat :=
  cs.foldl (fun n c => 10 * n + (c.toNat - 48)) 0

theorem digitChar_value {k : Nat} (h : k < 10) : (Nat.digitChar k).toNat - 48 = k := by
  have table : ∀ k < 10, (Nat.digitChar k).toNat - 48 = k := by decide
  exact table k h

theorem foldl_toDigitsCore (fuel : Nat) :
    ∀ n acc, n < fuel → (Nat.toDigitsCore 10 fuel n acc).foldl
      (fun n c => 10 * n + (c.toNat - 48)) 0 =
      acc.foldl (fun n c => 10 * n + (c.toNat - 48)) n := by
  induction fuel with
  | zero => intro n _ h; omega
  | succ fuel ih =>
    intro n acc h
    have hd := digitChar_value (Nat.mod_lt n (by omega : 10 > 0))
    simp only [Nat.toDigitsCore]
    split
    next hz =>
      simp only [List.foldl_cons, hd]
      congr 1
      omega
    next hz =>
      rw [ih (n / 10) _ (by omega)]
      simp only [List.foldl_cons, hd]
      congr 1
      omega

/-- fmt.Sprint of an unsigned integer reads back as that integer. -/
theorem decimalValue_toString (n : Nat) : decimalValue (toString n).data = n := by
  simpa using foldl_toDigitsCore (n + 1) n [] (by omega)

theorem toDigitsCore_isDigit (fuel : Nat) :
    ∀ n acc, (∀ c ∈ acc, c.isDigit) → ∀ c ∈ Nat.toDigitsCore 10 fuel n acc, c.isDigit := by
  induction fuel with
  | zero => intro n acc h; simpa [Nat.toDigitsCore] using h
  | succ fuel ih =>
    intro n acc h
    have table : ∀ k < 10, (Nat.digitChar k).isDigit := by decide
    have hd : ∀ c ∈ Nat.digitChar (n % 10) :: acc, c.isDigit := by
      simpa [table _ (Nat.mod_lt n (by omega : 10 > 0))] using h
    simp only [Nat.toDigitsCore]
    split
    · exact hd
    · exact ih _ _ hd

theorem toString_data_isDigit (n : Nat) : ∀ c ∈ (toString n).data, c.isDigit := by
  simpa using toDigitsCore_isDigit (n + 1) n [] (by simp)

theorem toString_injective : Function.Injective (toString : Nat → String) := by
  intro a b h
  rw [← decimalValue_toString a, ← decimalValue_toString b, h]

theorem toString_data_ne_nil (n : Nat) : (toString n).data ≠ [] := by
  intro h
  have hn := decimalValue_toString n
  rw [h] at hn
  subst hn
  exact absurd h (by decide)

/-- Digits before a non-digit separator are read back, from the right. -/
theorem digits_sep_cancel {sep : Char} (hs : sep.isDigit = false) :
    ∀ {x x' y y' : List Char}, (∀ c ∈ x, c.isDigit) → (∀ c ∈ x', c.isDigit) →
      x ++ sep :: y = x' ++ sep :: y' → x = x' ∧ y = y'
  | [], [], _, _, _, _, h => ⟨rfl, (List.cons.inj h).2⟩
  | [], c :: _, _, _, _, hx', h => absurd ((List.cons.inj h).1 ▸ hx' c (List.mem_cons_self _ _)) (by simp [hs])
  | c :: _, [], _, _, hx, _, h => absurd ((List.cons.inj h).1 ▸ hx c (List.mem_cons_self _ _)) (by simp [hs])
  | c :: x, c' :: x', y, y', hx, hx', h => by
    have ht : x ++ sep :: y = x' ++ sep :: y' := (List.cons.inj h).2
    obtain ⟨rfl, rfl⟩ := digits_sep_cancel hs (fun d hd => hx d (List.mem_cons_of_mem _ hd))
      (fun d hd => hx' d (List.mem_cons_of_mem _ hd)) ht
    exact ⟨by rw [(List.cons.inj h).1], rfl⟩

/-- A text with a count printed between a fixed separator ending in a non-digit and a fixed
suffix gives back the text before the separator and the count. -/
theorem counted_eq_iff {name name' mid suf : String} {n n' : Nat} {m : List Char} {sep : Char}
    (hmid : mid.data = m ++ [sep]) (hs : sep.isDigit = false) :
    name ++ mid ++ toString n ++ suf = name' ++ mid ++ toString n' ++ suf ↔
      name = name' ∧ n = n' := by
  constructor
  · intro h
    have hd := congrArg (fun t : String => (t.data.reverse.drop suf.data.length).reverse) h
    simp only [String.data_append, hmid, List.reverse_append, List.drop_left',
      List.length_reverse, List.reverse_reverse, List.append_assoc, List.singleton_append] at hd
    have hr := congrArg List.reverse hd
    simp only [List.reverse_append, List.reverse_cons, List.append_assoc, List.singleton_append,
      List.nil_append] at hr
    obtain ⟨hn, hname⟩ := digits_sep_cancel hs
      (fun c hc => toString_data_isDigit n c (List.mem_reverse.mp hc))
      (fun c hc => toString_data_isDigit n' c (List.mem_reverse.mp hc)) hr
    refine ⟨String.ext ?_, toString_injective (String.ext (List.reverse_inj.mp hn))⟩
    simpa using hname
  · rintro ⟨rfl, rfl⟩
    rfl

/-- The test of the regular expression /^CVE-\d{4}-\d{4,}$/i: "CVE-" in any case, four
digits, '-', at least four digits, and nothing else. -/
def cveRegexTest (query : String) : Bool :=
  match query.data with
  | c :: v :: e :: '-' :: y₁ :: y₂ :: y₃ :: y₄ :: '-' :: n =>
    c.toUpper == 'C' && v.toUpper == 'V' && e.toUpper == 'E' &&
      [y₁, y₂, y₃, y₄].all Char.isDigit && decide (4 ≤ n.length) && n.all Char.isDigit
  | _ => false

/-- isValidCVEFormat of the vulnerability page helpers. The length is counted in code points
where JavaScript counts UTF-16 units; the two agree on every result, as the guard decides
nothing: every query the regular expression accepts is ASCII and has at least 13 characters. -/
def isValidCVEFormat (query : String) : Bool :=
  if query.length < 9 then false else cveRegexTest query

theorem cveRegexTest_length {query : String} (h : cveRegexTest query = true) :
    13 ≤ query.length := by
  have hl : query.length = query.data.length := rfl
  unfold cveRegexTest at h
  split at h
  · rename_i n hd
    simp only [Bool.and_eq_true, decide_eq_true_eq] at h
    rw [hl, hd]
    simp only [List.length_cons]
    omega
  · cases h

/-- The length guard of isValidCVEFormat never changes its result: every query the regular
expression accepts has at least 13 characters. -/
theorem isValidCVEFormat_eq_test (query : String) :
    isValidCVEFormat query = cveRegexTest query := by
  unfold isValidCVEFormat
  split_ifs with h
  · cases ht : cveRegexTest query
    · rfl
    · have := cveRegexTest_length ht
      omega
  · rfl

example : isValidCVEFormat "cve-2024-12345" = true := by decide

end FleetFreeScout
