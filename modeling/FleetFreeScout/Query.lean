import FleetFreeScout.Conversation
import Mathlib.Data.String.Basic

namespace FleetFreeScout.Externalsvc

/-- The value of a hexadecimal digit of either case, as url's unhex reads it. -/
def unhex (c : Char) : Option Nat :=
  if c.isDigit then some (c.toNat - '0'.toNat)
  else if 'a' ≤ c ∧ c ≤ 'f' then some (c.toNat - 'a'.toNat + 10)
  else if 'A' ≤ c ∧ c ≤ 'F' then some (c.toNat - 'A'.toNat + 10)
  else none

/-- url.QueryUnescape, to bytes: '%' and two hex digits is one byte, '+' a space, any other
character its UTF-8 bytes; a '%' without two hex digits is an error. -/
def unescape : List Char → Option (List UInt8)
  | [] => some []
  | c :: rest =>
    if c = '%' then
      match rest with
      | h :: l :: rest =>
        match unhex h, unhex l, unescape rest with
        | some hi, some lo, some bs => some ((16 * hi + lo).toUInt8 :: bs)
        | _, _, _ => none
      | _ => none
    else if c = '+' then (32 :: ·) <$> unescape rest
    else (String.utf8EncodeChar c ++ ·) <$> unescape rest

/-- One part of url.ParseQuery: refused when it holds ';', else the key up to the first '=' and
the value after it, both unescaped. -/
def readPair (part : List Char) : Option (List UInt8 × List UInt8) :=
  if part.contains ';' then none
  else
    match unescape (part.takeWhile (· != '=')), unescape ((part.dropWhile (· != '=')).drop 1) with
    | some key, some value => some (key, value)
    | _, _ => none

/-- url.ParseQuery without errors: the parts between '&', empty parts skipped, each read by
readPair, in order. -/
def readQuery (query : String) : Option (List (List UInt8 × List UInt8)) :=
  ((query.data.splitOn '&').filter (!·.isEmpty)).mapM readPair

/-- The UTF-8 bytes of a string. -/
def utf8 (s : String) : List UInt8 :=
  s.data.flatMap String.utf8EncodeChar

/-- The characters url.QueryEscape writes: unreserved ones, '+' for a space, and '%' with hex
digits. -/
def queryChar (c : Char) : Bool :=
  c.isAlphanum || "-_.~+%".data.contains c

/-- The cuts net/url.Parse makes in a request URL: the fragment goes at the first '#', then
the query is what follows the first '?' (empty without one), and the scheme, host and path are
what comes before that '?'. -/
def splitURL (rawURL : String) : String × String :=
  let u := rawURL.data.takeWhile (· != '#')
  (⟨u.takeWhile (· != '?')⟩, ⟨(u.dropWhile (· != '?')).drop 1⟩)

theorem unescape_cons {c : Char} (h1 : c ≠ '%') (h2 : c ≠ '+') (rest : List Char) :
    unescape (c :: rest) = (String.utf8EncodeChar c ++ ·) <$> unescape rest := by
  rw [unescape.eq_def]
  simp only [if_neg h1, if_neg h2]

theorem unescape_plus (rest : List Char) :
    unescape ('+' :: rest) = (32 :: ·) <$> unescape rest := by
  rw [unescape.eq_def]
  rfl

theorem unescape_percent {h l : Char} {hi lo : Nat} (hh : unhex h = some hi)
    (hl : unhex l = some lo) (rest : List Char) :
    unescape ('%' :: h :: l :: rest) = ((16 * hi + lo).toUInt8 :: ·) <$> unescape rest := by
  rw [unescape.eq_2, if_pos rfl, hh, hl]
  cases unescape rest <;> rfl

theorem toNat_ofNat_byte {n : Nat} (h : n < 256) : (Char.ofNat n).toNat = n := by
  have hv : n.isValidChar := Or.inl (by omega)
  simp only [Char.ofNat, hv, dite_true]
  rfl

theorem utf8EncodeChar_ascii {c : Char} (h : c.toNat < 128) :
    String.utf8EncodeChar c = [c.toNat.toUInt8] := by
  have hv : c.val ≤ 0x7f := by
    rw [UInt32.le_def, BitVec.le_def]
    exact Nat.le_of_lt_succ h
  simp only [String.utf8EncodeChar, hv, if_true]
  rfl

/-- The characters url.QueryEscape leaves as they are are ASCII. -/
theorem unreserved_ascii {c : Char} (h : (c.isAlphanum || "-_.~".data.contains c) = true) :
    c.toNat < 128 := by
  have hle : ∀ {m : Nat}, m < UInt32.size → c.val ≤ UInt32.ofNat m → c.toNat ≤ m :=
    fun hm hc => UInt32.toNat_le_of_le hm hc
  simp only [Char.isAlphanum, Char.isAlpha, Char.isUpper, Char.isLower, Char.isDigit,
    Bool.or_eq_true, Bool.and_eq_true, decide_eq_true_eq, List.elem_eq_mem] at h
  rcases h with ((⟨-, h⟩ | ⟨-, h⟩) | ⟨-, h⟩) | h
  · have := @hle 90 (by decide) h; omega
  · have := @hle 122 (by decide) h; omega
  · have := @hle 57 (by decide) h; omega
  · simp only [List.mem_cons, List.not_mem_nil, or_false] at h
    rcases h with rfl | rfl | rfl | rfl <;> decide

theorem unhex_hexDigit : ∀ d < 16, unhex (Nat.digitChar d).toUpper = some d := by decide

theorem queryChar_hexDigit : ∀ d < 16, queryChar (Nat.digitChar d).toUpper := by decide

theorem queryChar_ne {c : Char} (h : queryChar c) : c ≠ '&' ∧ c ≠ '=' ∧ c ≠ ';' :=
  ⟨fun e => absurd (e ▸ h) (by decide), fun e => absurd (e ▸ h) (by decide),
    fun e => absurd (e ▸ h) (by decide)⟩

theorem queryChar_ne_hash {c : Char} (h : queryChar c) : c ≠ '#' :=
  fun e => absurd (e ▸ h) (by decide)

/-- The two hex digits escapeByte writes for a byte. -/
theorem hexDigits_byte {n : Nat} (h : n < 256) :
    (((Nat.toDigits 16 n).map Char.toUpper).asString.leftpad 2 '0').data =
      [(Nat.digitChar (n / 16)).toUpper, (Nat.digitChar (n % 16)).toUpper] := by
  have hpad : ∀ s : String, (s.leftpad 2 '0').data = List.leftpad 2 '0' s.data := fun _ => rfl
  rcases Nat.lt_or_ge n 16 with hn | hn
  · have hd : Nat.toDigits 16 n = [Nat.digitChar n] := by
      simp [Nat.toDigits, Nat.toDigitsCore, Nat.div_eq_of_lt hn, Nat.mod_eq_of_lt hn]
    simp [hpad, hd, List.asString, Nat.div_eq_of_lt hn, Nat.mod_eq_of_lt hn]
    rfl
  · obtain ⟨m, rfl⟩ : ∃ m, n = m + 1 := ⟨n - 1, by omega⟩
    have hq : (m + 1) / 16 < 16 := by omega
    have hd : Nat.toDigits 16 (m + 1) =
        [Nat.digitChar ((m + 1) / 16), Nat.digitChar ((m + 1) % 16)] := by
      simp [Nat.toDigits, Nat.toDigitsCore, Nat.div_eq_of_lt hq, Nat.mod_eq_of_lt hq]
      omega
    simp [hpad, hd, List.asString]

/-- Unescaping reads the escape of any byte back as that byte, whatever follows it. -/
theorem unescape_escapeByte (b : UInt8) (rest : List Char) :
    unescape ((escapeByte b).data ++ rest) = (b :: ·) <$> unescape rest := by
  have hb : b.toNat < 256 := b.toNat_lt_size
  have hbyte : b.toNat.toUInt8 = b := UInt8.toNat.inj (UInt8.toNat_ofNat_of_lt hb)
  have hc := toNat_ofNat_byte hb
  simp only [escapeByte]
  split_ifs with hu hsp
  · case pos =>
    have hpct : Char.ofNat b.toNat ≠ '%' := fun h => absurd (h ▸ hu) (by decide)
    have hplus : Char.ofNat b.toNat ≠ '+' := fun h => absurd (h ▸ hu) (by decide)
    show unescape (Char.ofNat b.toNat :: rest) = _
    rw [unescape_cons hpct hplus, utf8EncodeChar_ascii (unreserved_ascii hu), hc, hbyte]
    rfl
  · case pos =>
    have h32 : b = 32 := UInt8.toNat.inj (by rw [← hc, hsp]; rfl)
    subst h32
    exact unescape_plus rest
  · case neg =>
    show unescape ('%' :: ((((Nat.toDigits 16 b.toNat).map Char.toUpper).asString.leftpad 2
      '0').data ++ rest)) = _
    rw [hexDigits_byte hb, List.cons_append, List.cons_append, List.nil_append,
      unescape_percent (unhex_hexDigit _ (by omega)) (unhex_hexDigit _ (by omega)),
      Nat.div_add_mod, hbyte]

theorem escapeByte_queryChar (b : UInt8) : ∀ c ∈ (escapeByte b).data, queryChar c := by
  have hb : b.toNat < 256 := b.toNat_lt_size
  simp only [escapeByte]
  split_ifs with hu hsp
  · intro c hc
    obtain rfl : c = Char.ofNat b.toNat := List.mem_singleton.mp hc
    simp only [queryChar, Bool.or_eq_true, List.elem_eq_mem, decide_eq_true_eq,
      List.mem_cons] at hu ⊢
    rcases hu with h | h | h | h | h | h <;> simp [h]
  · intro c hc
    rw [List.mem_singleton.mp hc]
    decide
  · intro c hc
    simp only [String.data_append, hexDigits_byte hb] at hc
    rcases hc with _ | ⟨_, _ | ⟨_, _ | ⟨_, hc⟩⟩⟩
    · decide
    · exact queryChar_hexDigit _ (by omega)
    · exact queryChar_hexDigit _ (by omega)
    · cases hc

theorem queryEscape_data (s : String) :
    (queryEscape s).data = ((utf8 s).map fun b => (escapeByte b).data).flatten := by
  simp [queryEscape, utf8, Function.comp_def]

theorem unescape_escapeBytes (bs : List UInt8) (rest : List Char) :
    unescape ((bs.map fun b => (escapeByte b).data).flatten ++ rest) =
      (bs ++ ·) <$> unescape rest := by
  induction bs with
  | nil => simp
  | cons b bs ih =>
    rw [List.map_cons, List.flatten_cons, List.append_assoc, unescape_escapeByte, ih]
    cases unescape rest <;> rfl

/-- QueryUnescape reads back what QueryEscape wrote: the string's UTF-8 bytes. -/
theorem unescape_queryEscape (s : String) : unescape (queryEscape s).data = some (utf8 s) := by
  have h := unescape_escapeBytes (utf8 s) []
  rw [List.append_nil] at h
  rw [queryEscape_data, h]
  exact congrArg some (List.append_nil _)

theorem queryEscape_queryChar (s : String) : ∀ c ∈ (queryEscape s).data, queryChar c := by
  intro c hc
  rw [queryEscape_data] at hc
  obtain ⟨_, hl, hc⟩ := List.mem_flatten.mp hc
  obtain ⟨b, -, rfl⟩ := List.mem_map.mp hl
  exact escapeByte_queryChar b c hc

theorem readPair_escaped (key value : String) :
    readPair (queryEscape key ++ "=" ++ queryEscape value).data = some (utf8 key, utf8 value) := by
  have hk : ∀ c ∈ (queryEscape key).data, (c != '=') = true := fun c hc => by
    simpa using (queryChar_ne (queryEscape_queryChar key c hc)).2.1
  have hsk : ';' ∉ (queryEscape key).data := fun h =>
    (queryChar_ne (queryEscape_queryChar key _ h)).2.2 rfl
  have hsv : ';' ∉ (queryEscape value).data := fun h =>
    (queryChar_ne (queryEscape_queryChar value _ h)).2.2 rfl
  have hdata : (queryEscape key ++ "=" ++ queryEscape value).data =
      (queryEscape key).data ++ '=' :: (queryEscape value).data := by simp
  simp [readPair, hdata, hsk, hsv, List.takeWhile_append_of_pos hk, List.dropWhile_append_of_pos hk,
    unescape_queryEscape]

theorem data_intercalate_go (acc sep : String) (ss : List String) :
    (String.intercalate.go acc sep ss).data =
      sep.data.intercalate (acc.data :: ss.map String.data) := by
  induction ss generalizing acc with
  | nil => simp [String.intercalate.go, List.intercalate]
  | cons a as ih =>
    rw [String.intercalate.go, ih]
    cases as <;> simp [List.intercalate]

theorem data_intercalate (sep : String) (ss : List String) :
    (sep.intercalate ss).data = sep.data.intercalate (ss.map String.data) := by
  cases ss with
  | nil => rfl
  | cons a as => exact data_intercalate_go a sep as

theorem mapM_map_eq_some {α β γ : Type} {f : β → Option γ} {h : α → β} {g : α → γ} :
    ∀ {l : List α}, (∀ x ∈ l, f (h x) = some (g x)) → (l.map h).mapM f = some (l.map g)
  | [], _ => rfl
  | x :: l, hl => by
    rw [List.map_cons, List.mapM_cons, hl x (List.mem_cons_self _ _),
      mapM_map_eq_some fun y hy => hl y (List.mem_cons_of_mem _ hy)]
    rfl

/-- The parts url.Values.Encode joins by '&' read back as the pairs they escape. -/
theorem readQuery_parts (ps : List (String × String)) :
    readQuery ("&".intercalate (ps.map fun kv => queryEscape kv.1 ++ "=" ++ queryEscape kv.2)) =
      some (ps.map fun kv => (utf8 kv.1, utf8 kv.2)) := by
  cases ps with
  | nil => rfl
  | cons p ps =>
    have hpart : ∀ kv : String × String, (queryEscape kv.1 ++ "=" ++ queryEscape kv.2).data =
        (queryEscape kv.1).data ++ '=' :: (queryEscape kv.2).data := fun kv => by simp
    have hamp : ∀ l ∈ (p :: ps).map fun kv => (queryEscape kv.1 ++ "=" ++ queryEscape kv.2).data,
        '&' ∉ l := by
      simp only [List.mem_map, hpart]
      rintro _ ⟨kv, -, rfl⟩ h
      rcases List.mem_append.mp h with h | h
      · exact (queryChar_ne (queryEscape_queryChar _ _ h)).1 rfl
      · rcases List.mem_cons.mp h with h | h
        · exact absurd h (by decide)
        · exact (queryChar_ne (queryEscape_queryChar _ _ h)).1 rfl
    have hne : ∀ l ∈ (p :: ps).map fun kv => (queryEscape kv.1 ++ "=" ++ queryEscape kv.2).data,
        (!l.isEmpty) = true := by
      simp only [List.mem_map, hpart]
      rintro _ ⟨kv, -, rfl⟩
      simp
    have hsep : "&".data = ['&'] := rfl
    rw [readQuery, data_intercalate, List.map_map, Function.comp_def, hsep,
      List.splitOn_intercalate _ '&' hamp (List.cons_ne_nil _ _), List.filter_eq_self.mpr hne]
    exact mapM_map_eq_some fun kv _ => readPair_escaped kv.1 kv.2

/-- url.Values.Encode reads back as the pairs it was given, sorted by key. -/
theorem readQuery_encode (values : List (String × String)) :
    ∃ read, readQuery (encode values) = some read ∧
      read.Perm (values.map fun kv => (utf8 kv.1, utf8 kv.2)) :=
  ⟨_, readQuery_parts _, (List.perm_insertionSort _ _).map _⟩

theorem mem_intersperse {α : Type} {sep l : List α} :
    ∀ {xs : List (List α)}, l ∈ xs.intersperse sep → l = sep ∨ l ∈ xs
  | [], h => by cases h
  | [_], h => .inr h
  | _ :: _ :: _, h => by
    rw [List.intersperse_cons_cons] at h
    rcases List.mem_cons.mp h with rfl | h
    · exact .inr (List.mem_cons_self _ _)
    rcases List.mem_cons.mp h with rfl | h
    · exact .inl rfl
    rcases mem_intersperse h with h | h
    · exact .inl h
    · exact .inr (List.mem_cons_of_mem _ h)

theorem mem_intercalate {α : Type} {sep : List α} {xs : List (List α)} {c : α}
    (h : c ∈ sep.intercalate xs) : c ∈ sep ∨ ∃ l ∈ xs, c ∈ l := by
  obtain ⟨l, hl, hc⟩ := List.mem_flatten.mp h
  rcases mem_intersperse hl with rfl | hl
  · exact .inl hc
  · exact .inr ⟨l, hl, hc⟩

/-- The query url.Values.Encode writes holds no '#', so no fragment cuts it. -/
theorem encode_ne_hash (values : List (String × String)) :
    ∀ c ∈ (encode values).data, c ≠ '#' := by
  intro c hc
  rw [encode, data_intercalate] at hc
  rcases mem_intercalate hc with hc | ⟨_, hl, hc⟩
  · rw [List.mem_singleton.mp hc]
    decide
  · obtain ⟨_, hs, rfl⟩ := List.mem_map.mp hl
    obtain ⟨kv, -, rfl⟩ := List.mem_map.mp hs
    simp only [String.data_append, List.mem_append] at hc
    rcases hc with (hc | hc) | hc
    · exact queryChar_ne_hash (queryEscape_queryChar _ _ hc)
    · rw [List.mem_singleton.mp hc]
      decide
    · exact queryChar_ne_hash (queryEscape_queryChar _ _ hc)

/-- url.Parse cuts a URL with no '#', whose first '?' follows `pre`, into `pre` and the rest. -/
theorem splitURL_query {pre : List Char} {query : String} (hq : '?' ∉ pre) (hh : '#' ∉ pre)
    (hh' : '#' ∉ query.data) : splitURL ⟨pre ++ '?' :: query.data⟩ = (⟨pre⟩, query) := by
  have hfrag : ∀ c ∈ pre ++ '?' :: query.data, (c != '#') = true := by
    intro c hc
    rw [bne_iff_ne]
    rintro rfl
    rcases List.mem_append.mp hc with h | h
    · exact hh h
    · exact hh' ((List.mem_cons.mp h).resolve_left (by decide))
  have hpre : ∀ c ∈ pre, (c != '?') = true := fun c hc => by
    rw [bne_iff_ne]
    rintro rfl
    exact hq hc
  have hstop : ¬('?' != '?') = true := by decide
  simp only [splitURL, List.takeWhile_eq_self_iff.mpr hfrag, List.takeWhile_append_of_pos hpre,
    List.dropWhile_append_of_pos hpre, List.takeWhile_cons_of_neg (p := fun x => x != '?') hstop,
    List.dropWhile_cons_of_neg (p := fun x => x != '?') hstop, List.append_nil]
  rfl

/-- The subject search reaches the server as the code means it: for a client URL with no '?'
and no '#', url.Parse cuts the request URL at the '?' the code writes, before the query; and
the query, read by url.ParseQuery, holds exactly the eleven parameters of searchParams, the
subject as its own UTF-8 bytes whatever '&', '=', ';', '%', '+', '?' or '#' it holds. -/
theorem searchRequest_reads_back (f : FreeScout) (subject : String)
    (hq : '?' ∉ f.opts.url.data) (hh : '#' ∉ f.opts.url.data) :
    (splitURL (f.searchRequest subject).url).1 = f.opts.url ++ "/api/conversations" ∧
    ∃ read, readQuery (splitURL (f.searchRequest subject).url).2 = some read ∧
      read.Perm ((f.searchParams subject).map fun kv => (utf8 kv.1, utf8 kv.2)) := by
  have hurl : (f.searchRequest subject).url = ⟨(f.opts.url ++ "/api/conversations").data ++
      '?' :: (encode (f.searchParams subject)).data⟩ :=
    String.ext (by simp only [FreeScout.searchRequest, String.data_append, List.append_assoc]; rfl)
  have hpath : '?' ∉ "/api/conversations".data ∧ '#' ∉ "/api/conversations".data := by decide
  rw [hurl, splitURL_query (by simp [hq, hpath.1]) (by simp [hh, hpath.2])
    fun h => encode_ne_hash _ _ h rfl]
  dsimp only
  exact ⟨rfl, readQuery_encode (f.searchParams subject)⟩

theorem searchRequest_reads_back_example :
    let f : FreeScout :=
      ⟨0, ⟨"https://freescout.example.com", "token", 1, "fleet@example.com", 0⟩⟩
    '?' ∉ f.opts.url.data ∧ '#' ∉ f.opts.url.data ∧
      (splitURL (f.searchRequest "Q&A #1?").url).1 = f.opts.url ++ "/api/conversations" ∧
      ∃ read, readQuery (splitURL (f.searchRequest "Q&A #1?").url).2 = some read ∧
        read.Perm ((f.searchParams "Q&A #1?").map fun kv => (utf8 kv.1, utf8 kv.2)) := by
  intro f
  have hq : '?' ∉ f.opts.url.data := by decide
  have hh : '#' ∉ f.opts.url.data := by decide
  exact ⟨hq, hh, searchRequest_reads_back f "Q&A #1?" hq hh⟩

end FleetFreeScout.Externalsvc
