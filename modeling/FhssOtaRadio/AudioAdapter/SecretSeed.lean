import Mathlib.Data.List.OfFn
import Mathlib.Logic.Function.Basic
import Mathlib.Tactic.Positivity
import Mathlib.Tactic.Ring

/-!
# The secret seed file (`decode_secret_seed_from_embedded_txt`)

The adapter reads the team's secret from a text that is embedded in the firmware: eight hex digits,
white space anywhere, `0x` in front of them if one likes.  It copies the text without its white
space to a scratch buffer of 16 bytes and looks at that.  Every access to the buffer is checked
here, so that one beyond its end shows as `none`.
-/

namespace FhssOtaRadio

/-- The four bytes of `s_secret_seed`. -/
abbrev SecretSeed := Fin 4 → UInt8

/-! ## The C library -/

/-- `isspace`. -/
def isspace (c : UInt8) : Bool := c == 0x20 || (0x09 ≤ c && c ≤ 0x0D)

/-- `isxdigit`. -/
def isxdigit (c : UInt8) : Bool :=
  (0x30 ≤ c && c ≤ 0x39) || (0x41 ≤ c && c ≤ 0x46) || (0x61 ≤ c && c ≤ 0x66)

/-- The value of a hex digit. -/
def xdigitValue (c : UInt8) : ℕ :=
  if c ≤ 0x39 then c.toNat - 0x30 else if c ≤ 0x46 then c.toNat - 0x37 else c.toNat - 0x57

/-- `strtol` of a string of two hex digits, to the base 16. -/
def strtolHexPair (high low : UInt8) : ℕ := 16 * xdigitValue high + xdigitValue low

/-! ## The scratch buffer -/

/-- `buffer[index] = c`, `none` beyond the end of the buffer. -/
def store (buffer : List UInt8) (index : ℕ) (c : UInt8) : Option (List UInt8) :=
  if index < buffer.length then some (buffer.set index c) else none

/-- The loop that copies the text without its white space up to the first NUL.  `some none` is the
early `return false` of a text that is too long. -/
def trimText : List UInt8 → List UInt8 → ℕ → Option (Option (List UInt8 × ℕ))
  | [], trimmed, trimmedLen => some (some (trimmed, trimmedLen))
  | c :: text, trimmed, trimmedLen =>
      if c = 0 then some (some (trimmed, trimmedLen))
      else if isspace c then trimText text trimmed trimmedLen
      else if 16 - 1 ≤ trimmedLen then some none
      else do
        let trimmed ← store trimmed trimmedLen c
        trimText text trimmed (trimmedLen + 1)

/-- Whether the trimmed text starts with `0x` or `0X`. -/
def hasHexMark (trimmed : List UInt8) (trimmedLen : ℕ) : Option Bool :=
  if 2 ≤ trimmedLen then do
    let first ← trimmed[0]?
    if first = 0x30 then do
      let second ← trimmed[1]?
      some (second == 0x78 || second == 0x58)
    else some false
  else some false

/-- The loop that checks the digits at the indices `is`. -/
def allXdigits (trimmed : List UInt8) (digits : ℕ) : List ℕ → Option Bool
  | [] => some true
  | i :: is => do
      let c ← trimmed[digits + i]?
      if isxdigit c then allXdigits trimmed digits is else some false

/-- The loop that writes the bytes at the indices `is`. -/
def writeSeed (trimmed : List UInt8) (digits : ℕ) : List (Fin 4) → SecretSeed → Option SecretSeed
  | [], out => some out
  | i :: is, out => do
      let high ← trimmed[digits + i.val * 2]?
      let low ← trimmed[digits + (i.val * 2 + 1)]?
      writeSeed trimmed digits is
        (Function.update out i (UInt8.ofNat (strtolHexPair high low)))

/-- `decode_secret_seed_from_embedded_txt`: what it returns and `out` afterwards.  `scratch` is what
the stack holds where the buffer is; `none` is an access beyond the buffer. -/
def decodeSecretSeedFromEmbeddedTxt (scratch : Fin 16 → UInt8) (text : List UInt8)
    (out : SecretSeed) : Option (Bool × SecretSeed) := do
  match ← trimText text (List.ofFn scratch) 0 with
  | none => some (false, out)
  | some (trimmed, trimmedLen) => do
      let trimmed ← store trimmed trimmedLen 0
      let marked ← hasHexMark trimmed trimmedLen
      let digits := if marked then 2 else 0
      let trimmedLen := if marked then trimmedLen - 2 else trimmedLen
      if trimmedLen ≠ 8 then some (false, out)
      else do
        let valid ← allXdigits trimmed digits (List.range 8)
        if valid then do
          let out ← writeSeed trimmed digits (List.finRange 4) out
          some (true, out)
        else some (false, out)

/-! ## The grammar -/

/-- The content of the file: the text up to the first NUL without its white space. -/
def seedWord (text : List UInt8) : List UInt8 :=
  (text.takeWhile (· != 0)).filter fun c => !isspace c

/-- Eight hex digits. -/
def EightXdigits (digits : List UInt8) : Prop :=
  digits.length = 8 ∧ ∀ c ∈ digits, isxdigit c = true

/-- An optional `0x` or `0X` and eight hex digits. -/
def SeedGrammar (word digits : List UInt8) : Prop :=
  EightXdigits digits ∧ (word = digits ∨ word = 0x30 :: 0x78 :: digits ∨
    word = 0x30 :: 0x58 :: digits)

/-- The number some hex digits denote. -/
def hexNumber (digits : List UInt8) : ℕ :=
  digits.foldl (fun number c => 16 * number + xdigitValue c) 0

/-- The four bytes of a number, most significant first. -/
def seedBytes (number : ℕ) : SecretSeed := fun i => UInt8.ofNat (number / 256 ^ (3 - i.val))

/-! ## The loops -/

@[simp] lemma seedWord_nil : seedWord [] = [] := rfl

lemma seedWord_cons_nul (text : List UInt8) : seedWord (0 :: text) = [] := by
  simp [seedWord]

lemma seedWord_cons_space {c : UInt8} (text : List UInt8) (hnul : c ≠ 0)
    (hspace : isspace c = true) : seedWord (c :: text) = seedWord text := by
  simp [seedWord, hnul, hspace]

lemma seedWord_cons {c : UInt8} (text : List UInt8) (hnul : c ≠ 0)
    (hspace : ¬ isspace c = true) : seedWord (c :: text) = c :: seedWord text := by
  simp [seedWord, hnul, hspace]

/-- A byte stored behind what has been copied. -/
lemma store_append (copied rest : List UInt8) (r c : UInt8) :
    store (copied ++ r :: rest) copied.length c = some (copied ++ c :: rest) := by
  unfold store
  rw [if_pos (by simp), List.set_append_right _ _ le_rfl]
  simp

/-- The copy loop appends the word to what the buffer holds, or finds it too long; it stays inside
the buffer. -/
lemma trimText_eq (text copied rest : List UInt8) (hsize : copied.length + rest.length = 16)
    (hroom : copied.length ≤ 15) :
    trimText text (copied ++ rest) copied.length =
      if copied.length + (seedWord text).length ≤ 15 then
        some (some (copied ++ seedWord text ++ rest.drop (seedWord text).length,
          copied.length + (seedWord text).length))
      else some none := by
  induction text generalizing copied rest with
  | nil => simp [trimText, hroom]
  | cons c text ih =>
    unfold trimText
    by_cases hnul : c = 0
    · subst hnul
      rw [if_pos rfl, seedWord_cons_nul]
      simp [hroom]
    rw [if_neg hnul]
    by_cases hspace : isspace c = true
    · rw [if_pos hspace, seedWord_cons_space text hnul hspace]
      exact ih copied rest hsize hroom
    rw [if_neg hspace, seedWord_cons text hnul hspace]
    by_cases hlong : 16 - 1 ≤ copied.length
    · rw [if_pos hlong, if_neg]
      rw [List.length_cons]
      omega
    · rw [if_neg hlong]
      obtain ⟨r, rest, rfl⟩ := List.exists_cons_of_ne_nil
        (show rest ≠ [] from fun hnil => by rw [hnil, List.length_nil] at hsize; omega)
      rw [List.length_cons] at hsize
      have happended := ih (copied ++ [c]) rest
        (by rw [List.length_append, List.length_singleton]; omega)
        (by rw [List.length_append, List.length_singleton]; omega)
      rw [List.append_assoc, List.singleton_append, List.length_append, List.length_singleton]
        at happended
      rw [store_append, Option.bind_eq_bind, Option.bind_some, happended, List.length_cons,
        List.drop_succ_cons, List.append_assoc copied, List.singleton_append,
        show copied.length + 1 + (seedWord text).length =
          copied.length + ((seedWord text).length + 1) by omega]

/-- The digit check reads the digits one by one and stays among them. -/
lemma allXdigits_eq {trimmed digits : List UInt8} {start : ℕ} (is : List ℕ)
    (hread : ∀ i ∈ is, i < digits.length ∧ trimmed[start + i]? = digits[i]?) :
    allXdigits trimmed start is = some (is.all fun i => (digits[i]?).any isxdigit) := by
  induction is with
  | nil => rfl
  | cons i is ih =>
    obtain ⟨hlt, hi⟩ := hread i (List.mem_cons_self ..)
    have hrest := ih fun j hj => hread j (List.mem_cons_of_mem _ hj)
    rw [allXdigits, hi, List.getElem?_eq_getElem hlt, List.all_cons,
      List.getElem?_eq_getElem hlt, hrest]
    cases hdigit : isxdigit digits[i] <;> simp [hdigit]

/-- A check of all indices is one of all elements. -/
lemma all_range_length (digits : List UInt8) (p : UInt8 → Bool) :
    ((List.range digits.length).all fun i => (digits[i]?).any p) = digits.all p := by
  rw [Bool.eq_iff_iff, List.all_eq_true, List.all_eq_true]
  constructor
  · intro h c hc
    obtain ⟨i, hi, rfl⟩ := List.getElem_of_mem hc
    have hany := h i (List.mem_range.mpr hi)
    rwa [List.getElem?_eq_getElem hi] at hany
  · intro h i hi
    rw [List.getElem?_eq_getElem (List.mem_range.mp hi)]
    exact h _ (List.getElem_mem _)

/-- The bytes are written one by one, from the digits of their index. -/
lemma writeSeed_eq {trimmed digits : List UInt8} {start : ℕ} (hlength : digits.length = 8)
    (hread : ∀ i < 8, trimmed[start + i]? = digits[i]?) (is : List (Fin 4)) (out : SecretSeed) :
    writeSeed trimmed start is out = some fun i =>
      if i ∈ is then
        UInt8.ofNat (strtolHexPair (digits.getD (i.val * 2) 0) (digits.getD (i.val * 2 + 1) 0))
      else out i := by
  induction is generalizing out with
  | nil => simp [writeSeed]
  | cons i is ih =>
    have hhigh : i.val * 2 < digits.length := by omega
    have hlow : i.val * 2 + 1 < digits.length := by omega
    rw [writeSeed, hread _ (by omega), hread _ (by omega), List.getElem?_eq_getElem hhigh,
      List.getElem?_eq_getElem hlow, Option.bind_eq_bind, Option.bind_some, Option.bind_some, ih]
    congr 1
    funext j
    by_cases hmem : j ∈ is
    · simp [hmem]
    · by_cases heq : j = i
      · subst heq
        simp [hmem, List.getElem?_eq_getElem hhigh, List.getElem?_eq_getElem hlow]
      · simp [hmem, heq]

/-! ## The number -/

/-- A hex digit is worth less than 16. -/
lemma xdigitValue_lt {c : UInt8} (hdigit : isxdigit c = true) : xdigitValue c < 16 := by
  unfold isxdigit at hdigit
  unfold xdigitValue
  simp only [Bool.or_eq_true, Bool.and_eq_true, decide_eq_true_eq, UInt8.le_iff_toNat_le]
    at hdigit ⊢
  change ((48 ≤ c.toNat ∧ c.toNat ≤ 57) ∨ 65 ≤ c.toNat ∧ c.toNat ≤ 70) ∨
    97 ≤ c.toNat ∧ c.toNat ≤ 102 at hdigit
  change (if c.toNat ≤ 57 then c.toNat - 48 else if c.toNat ≤ 70 then c.toNat - 55
    else c.toNat - 87) < 16
  split_ifs <;> omega

/-- Digits behind a number shift it. -/
lemma foldl_xdigits (digits : List UInt8) (number : ℕ) :
    digits.foldl (fun number c => 16 * number + xdigitValue c) number =
      number * 16 ^ digits.length + hexNumber digits := by
  unfold hexNumber
  induction digits generalizing number with
  | nil => simp
  | cons c digits ih =>
    rw [List.foldl_cons, List.foldl_cons, ih, ih (16 * 0 + xdigitValue c), List.length_cons]
    ring

/-- The digits in front count for more. -/
lemma hexNumber_append (front back : List UInt8) :
    hexNumber (front ++ back) = hexNumber front * 16 ^ back.length + hexNumber back := by
  rw [hexNumber, List.foldl_append, foldl_xdigits]
  rfl

/-- A number of `n` hex digits is less than `16 ^ n`. -/
lemma hexNumber_lt {digits : List UInt8} (hdigits : ∀ c ∈ digits, isxdigit c = true) :
    hexNumber digits < 16 ^ digits.length := by
  induction digits with
  | nil => decide
  | cons c digits ih =>
    have hvalue := xdigitValue_lt (hdigits c (List.mem_cons_self ..))
    have hrest := ih fun c' hc' => hdigits c' (List.mem_cons_of_mem _ hc')
    rw [← List.singleton_append, hexNumber_append, List.length_append, List.length_singleton,
      pow_add, pow_one]
    have hone : hexNumber [c] = xdigitValue c := by simp [hexNumber]
    rw [hone]
    calc xdigitValue c * 16 ^ digits.length + hexNumber digits
        < xdigitValue c * 16 ^ digits.length + 16 ^ digits.length := Nat.add_lt_add_left hrest _
      _ = (xdigitValue c + 1) * 16 ^ digits.length := by ring
      _ ≤ 16 * 16 ^ digits.length := Nat.mul_le_mul_right _ hvalue

/-- The bytes of the number that eight hex digits denote are the pairs of the digits. -/
lemma seedBytes_hexNumber {digits : List UInt8} (h : EightXdigits digits) (i : Fin 4) :
    seedBytes (hexNumber digits) i =
      UInt8.ofNat (strtolHexPair (digits.getD (i.val * 2) 0) (digits.getD (i.val * 2 + 1) 0)) := by
  obtain ⟨hlength, hdigits⟩ := h
  have hhigh : i.val * 2 < digits.length := by omega
  have hlow : i.val * 2 + 1 < digits.length := by omega
  -- The digits behind the pair are cut off by the division.
  have hcut : hexNumber digits / 256 ^ (3 - i.val) =
      hexNumber (digits.take (i.val * 2 + 1 + 1)) := by
    have hback : (digits.drop (i.val * 2 + 1 + 1)).length = 2 * (3 - i.val) := by
      rw [List.length_drop]
      omega
    have hpow : 16 ^ (digits.drop (i.val * 2 + 1 + 1)).length = 256 ^ (3 - i.val) := by
      rw [hback, pow_mul]
      norm_num
    have hlt := @hexNumber_lt (digits.drop (i.val * 2 + 1 + 1))
      fun c hc => hdigits c (List.mem_of_mem_drop hc)
    conv_lhs => rw [← List.take_append_drop (i.val * 2 + 1 + 1) digits]
    rw [hpow] at hlt
    rw [hexNumber_append, hpow, mul_comm, Nat.mul_add_div (by positivity), Nat.div_eq_of_lt hlt,
      add_zero]
  -- Those in front of it count for multiples of 256.
  have hfront : hexNumber (digits.take (i.val * 2 + 1 + 1)) =
      hexNumber (digits.take (i.val * 2)) * 256 + strtolHexPair digits[i.val * 2]
        digits[i.val * 2 + 1] := by
    rw [List.take_succ_eq_append_getElem hlow, List.take_succ_eq_append_getElem hhigh,
      List.append_assoc, hexNumber_append]
    simp [hexNumber, strtolHexPair]
  unfold seedBytes
  rw [hcut, hfront, List.getD_eq_getElem?_getD, List.getD_eq_getElem?_getD,
    List.getElem?_eq_getElem hhigh, List.getElem?_eq_getElem hlow, Option.getD_some,
    Option.getD_some, ← UInt8.toNat_inj, UInt8.toNat_ofNat', UInt8.toNat_ofNat']
  omega

/-! ## The mark -/

/-- A word that starts with `0x` or `0X`. -/
def hexMarked : List UInt8 → Bool
  | first :: second :: _ => first == 0x30 && (second == 0x78 || second == 0x58)
  | _ => false

/-- What a word holds behind the mark. -/
def afterMark (word : List UInt8) : List UInt8 := if hexMarked word then word.drop 2 else word

/-- The buffer starts with the mark when the word does. -/
lemma hasHexMark_eq (word rest : List UInt8) :
    hasHexMark (word ++ rest) word.length = some (hexMarked word) := by
  unfold hasHexMark
  rcases word with _ | ⟨first, _ | ⟨second, word⟩⟩
  · rfl
  · rfl
  · by_cases hzero : first = 0x30
    · simp [hexMarked, hzero]
    · simp [hexMarked, hzero]

/-- A word has the digits of the grammar exactly behind its mark: no hex digit looks like a
mark. -/
lemma seedGrammar_iff (word digits : List UInt8) :
    SeedGrammar word digits ↔ digits = afterMark word ∧ EightXdigits digits := by
  unfold SeedGrammar afterMark
  constructor
  · rintro ⟨height, rfl | rfl | rfl⟩
    · refine ⟨?_, height⟩
      rw [if_neg]
      intro hmarked
      rcases word with _ | ⟨first, _ | ⟨second, word⟩⟩
      · cases hmarked
      · cases hmarked
      · have hdigit := height.2 second (by simp)
        simp only [hexMarked, Bool.and_eq_true, Bool.or_eq_true, beq_iff_eq] at hmarked
        rcases hmarked.2 with rfl | rfl
        · cases hdigit
        · cases hdigit
    · exact ⟨rfl, height⟩
    · exact ⟨rfl, height⟩
  · rintro ⟨rfl, height⟩
    refine ⟨height, ?_⟩
    by_cases hmarked : hexMarked word = true
    · rw [if_pos hmarked]
      rcases word with _ | ⟨first, _ | ⟨second, word⟩⟩
      · cases hmarked
      · cases hmarked
      · simp only [hexMarked, Bool.and_eq_true, Bool.or_eq_true, beq_iff_eq] at hmarked
        obtain ⟨rfl, rfl | rfl⟩ := hmarked
        · exact .inr (.inl rfl)
        · exact .inr (.inr rfl)
    · rw [if_neg hmarked]
      exact .inl rfl

/-- The number of bytes behind the mark. -/
lemma length_afterMark (word : List UInt8) :
    (afterMark word).length = if hexMarked word then word.length - 2 else word.length := by
  unfold afterMark
  split_ifs
  · exact List.length_drop
  · rfl

/-- The bytes behind the mark in the buffer. -/
lemma getElem?_afterMark (word rest : List UInt8) {i : ℕ} (hi : i < (afterMark word).length) :
    (word ++ rest)[(if hexMarked word then 2 else 0) + i]? = (afterMark word)[i]? := by
  unfold afterMark at hi ⊢
  by_cases hmarked : hexMarked word = true
  · rw [if_pos hmarked, List.length_drop] at hi
    rw [if_pos hmarked, if_pos hmarked, List.getElem?_append_left (by omega), List.getElem?_drop]
  · rw [if_neg hmarked] at hi
    rw [if_neg hmarked, if_neg hmarked, Nat.zero_add, List.getElem?_append_left hi]

/-! ## The file is read by its grammar -/

/-- What the decoder makes of a word that fits the buffer. -/
lemma decode_of_word {scratch : Fin 16 → UInt8} {text : List UInt8} (out : SecretSeed)
    (hfits : (seedWord text).length ≤ 15) :
    (EightXdigits (afterMark (seedWord text)) ∧
      decodeSecretSeedFromEmbeddedTxt scratch text out =
        some (true, seedBytes (hexNumber (afterMark (seedWord text))))) ∨
    (¬ EightXdigits (afterMark (seedWord text)) ∧
      decodeSecretSeedFromEmbeddedTxt scratch text out = some (false, out)) := by
  have htrim := trimText_eq text [] (List.ofFn scratch) (by simp) (by simp)
  rw [List.nil_append, List.nil_append, List.length_nil, Nat.zero_add, if_pos hfits] at htrim
  obtain ⟨r, rest, hrest⟩ := List.exists_cons_of_ne_nil
    (show (List.ofFn scratch).drop (seedWord text).length ≠ [] from fun hnil => by
      have hlength := congrArg List.length hnil
      rw [List.length_drop, List.length_ofFn, List.length_nil] at hlength
      omega)
  unfold decodeSecretSeedFromEmbeddedTxt
  rw [htrim, hrest]
  generalize seedWord text = word
  simp only [store_append, hasHexMark_eq, Option.bind_eq_bind, Option.bind_some,
    ← length_afterMark]
  by_cases hlength : (afterMark word).length ≠ 8
  · rw [if_pos hlength]
    exact .inr ⟨fun height => hlength height.1, rfl⟩
  rw [if_neg hlength]
  rw [not_not] at hlength
  have hread : ∀ i < 8, (word ++ 0 :: rest)[(if hexMarked word then 2 else 0) + i]? =
      (afterMark word)[i]? := fun i hi =>
    getElem?_afterMark word (0 :: rest) (hlength ▸ hi)
  have hcheck := allXdigits_eq (List.range 8) fun i hi =>
    ⟨hlength ▸ List.mem_range.mp hi, hread i (List.mem_range.mp hi)⟩
  have hall := all_range_length (afterMark word) isxdigit
  rw [hlength] at hall
  rw [hcheck, hall, Option.bind_some]
  by_cases hvalid : (afterMark word).all isxdigit = true
  · rw [if_pos hvalid, writeSeed_eq hlength hread, Option.bind_some]
    have height : EightXdigits (afterMark word) := ⟨hlength, List.all_eq_true.mp hvalid⟩
    refine .inl ⟨height, ?_⟩
    congr 2
    funext i
    rw [if_pos (List.mem_finRange i), seedBytes_hexNumber height]
  · rw [if_neg hvalid]
    exact .inr ⟨fun height => hvalid (List.all_eq_true.mpr height.2), rfl⟩

/-- A word that does not fit the buffer is rejected; no word of the grammar is that long. -/
lemma decode_of_long {scratch : Fin 16 → UInt8} {text : List UInt8} (out : SecretSeed)
    (hlong : 15 < (seedWord text).length) :
    ¬ EightXdigits (afterMark (seedWord text)) ∧
      decodeSecretSeedFromEmbeddedTxt scratch text out = some (false, out) := by
  constructor
  · rintro ⟨hlength, -⟩
    rw [length_afterMark] at hlength
    split_ifs at hlength <;> omega
  · have htrim := trimText_eq text [] (List.ofFn scratch) (by simp) (by simp)
    rw [List.nil_append, List.length_nil, Nat.zero_add, if_neg (not_le.mpr hlong)] at htrim
    unfold decodeSecretSeedFromEmbeddedTxt
    rw [htrim]
    rfl

/-- **The secret seed file is read by its grammar**: for every text and whatever the scratch buffer
holds before, the decoder stays inside the buffer, accepts exactly the words of the grammar, writes
the bytes of the number they denote, and leaves `out` alone otherwise. -/
theorem decodeSecretSeed_grammar (scratch : Fin 16 → UInt8) (text : List UInt8)
    (out : SecretSeed) :
    ∃ accepted out', decodeSecretSeedFromEmbeddedTxt scratch text out = some (accepted, out') ∧
      (accepted = true ↔ ∃ digits, SeedGrammar (seedWord text) digits) ∧
      (∀ digits, SeedGrammar (seedWord text) digits → out' = seedBytes (hexNumber digits)) ∧
      (accepted = false → out' = out) := by
  have hgrammar := seedGrammar_iff (seedWord text)
  have hcases : (EightXdigits (afterMark (seedWord text)) ∧
      decodeSecretSeedFromEmbeddedTxt scratch text out =
        some (true, seedBytes (hexNumber (afterMark (seedWord text))))) ∨
      (¬ EightXdigits (afterMark (seedWord text)) ∧
        decodeSecretSeedFromEmbeddedTxt scratch text out = some (false, out)) := by
    rcases Nat.lt_or_ge 15 (seedWord text).length with hlong | hfits
    · exact .inr (decode_of_long out hlong)
    · exact decode_of_word out hfits
  rcases hcases with ⟨height, hdecode⟩ | ⟨hbad, hdecode⟩
  · refine ⟨true, _, hdecode, ⟨fun _ => ⟨_, (hgrammar _).mpr ⟨rfl, height⟩⟩, fun _ => rfl⟩, ?_,
      nofun⟩
    intro digits hdigits
    rw [((hgrammar digits).mp hdigits).1]
  · have hnone : ∀ digits, ¬ SeedGrammar (seedWord text) digits := by
      intro digits hdigits
      obtain ⟨rfl, height⟩ := (hgrammar digits).mp hdigits
      exact hbad height
    refine ⟨false, out, hdecode, ⟨nofun, fun ⟨digits, hdigits⟩ => absurd hdigits (hnone digits)⟩,
      fun digits hdigits => absurd hdigits (hnone digits), fun _ => rfl⟩

/-- The default secret with a mark, white space inside and a byte behind the NUL. -/
example : (decodeSecretSeedFromEmbeddedTxt (fun _ => 0xAA)
    [0x30, 0x78, 0x34, 0x62, 0x20, 0x34, 0x33, 0x34, 0x33, 0x34, 0x39, 0x0A, 0, 0x31]
    (fun _ => 0)).map (fun result => (result.1, List.ofFn result.2)) =
    some (true, [0x4B, 0x43, 0x43, 0x49]) := by
  decide

end FhssOtaRadio
