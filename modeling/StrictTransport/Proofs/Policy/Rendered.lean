import StrictTransport.Proofs.Policy.Extended

namespace StrictTransport.Policy

open Document Text

-- A letter from a to z, or a digit from 0 to 9.
def LowerAlphanumeric (c : Char) : Prop :=
  97 ≤ c.toNat ∧ c.toNat ≤ 122 ∨ 48 ≤ c.toNat ∧ c.toNat ≤ 57

instance (c : Char) : Decidable (LowerAlphanumeric c) :=
  inferInstanceAs (Decidable (_ ∨ _))

-- A key in lower case, character by character.
structure LowerKey (key : String) : Prop where
  first : ∃ c ∈ key.toList.head?, LowerAlphanumeric c
  length : key.toList.length ≤ 32
  chars : ∀ c ∈ key.toList, LowerAlphanumeric c ∨ c ∈ ['_', '.', '-']

-- A pair that a line can tell: its value begins with a visible character, ends in one that is
-- neither a blank nor a tab, and has no line feed.
structure Renderable (pair : Pair) : Prop where
  key : LowerKey pair.1
  first : ∃ c ∈ pair.2.toList.head?, isAsciiBlank c.toNat = false
  last : ∃ c ∈ pair.2.toList.getLast?, isWsp c = false
  line : '\n' ∉ pair.2.toList

instance (key : String) : Decidable (LowerKey key) :=
  decidable_of_iff (key.toList.head?.any (fun c => decide (LowerAlphanumeric c)) = true ∧
      key.toList.length ≤ 32 ∧
      key.toList.all (fun c => decide (LowerAlphanumeric c ∨ c ∈ ['_', '.', '-'])) = true) <| by
    simp only [Option.any_eq_true, List.all_eq_true, decide_eq_true_eq]
    exact ⟨fun h => ⟨h.1, h.2.1, h.2.2⟩, fun h => ⟨h.first, h.length, h.chars⟩⟩

instance (pair : Pair) : Decidable (Renderable pair) :=
  decidable_of_iff (LowerKey pair.1 ∧
      pair.2.toList.head?.any (fun c => !isAsciiBlank c.toNat) = true ∧
      pair.2.toList.getLast?.any (fun c => !isWsp c) = true ∧ '\n' ∉ pair.2.toList) <| by
    simp only [Option.any_eq_true, Bool.not_eq_true']
    exact ⟨fun h => ⟨h.1, h.2.1, h.2.2.1, h.2.2.2⟩, fun h => ⟨h.key, h.first, h.last, h.line⟩⟩

-- The document of pairs as text, with the lines that extended documents are made of.
def rendered (pairs : List Pair) : String :=
  String.join (pairs.map fun pair => line pair.1 pair.2)

theorem encode_rendered (pairs : List Pair) :
    Utf8.encode (rendered pairs).toList = document pairs := by
  induction pairs with
  | nil => rfl
  | cons pair pairs ih =>
      have hjoin : rendered (pair :: pairs) = line pair.1 pair.2 ++ rendered pairs := by
        rw [rendered, List.map_cons, String.join_cons, rendered]
      rw [hjoin, String.toList_append, Utf8.encode_append, encode_line, ih, document_cons,
        List.append_assoc]
      rfl

-- The characters of keys are ASCII, so their codes decide.
theorem lowerKeyChar_spec {c : Char} (h : LowerAlphanumeric c ∨ c ∈ ['_', '.', '-']) :
    c.toNat < 0x80 ∧ isKeyByte (UInt8.ofNat c.toNat) = true ∧
      (Char.ofNat (UInt8.ofNat c.toNat).toNat).toLower = c := by
  have hcode : ∀ n < 0x80, LowerAlphanumeric (Char.ofNat n) ∨ Char.ofNat n ∈ ['_', '.', '-'] →
      isKeyByte (UInt8.ofNat n) = true ∧
        (Char.ofNat (UInt8.ofNat n).toNat).toLower = Char.ofNat n := by
    decide +kernel
  have hascii : c.toNat < 0x80 := by
    rcases h with (hletter | hdigit) | hmark
    · omega
    · omega
    · simp only [List.mem_cons, List.not_mem_nil, or_false] at hmark
      rcases hmark with rfl | rfl | rfl <;> decide
  have hspec := hcode c.toNat hascii
  rw [Char.ofNat_toNat] at hspec
  exact ⟨hascii, hspec h⟩

theorem isAlphanumeric_of_lower {c : Char} (h : LowerAlphanumeric c) :
    isAlphanumeric (UInt8.ofNat c.toNat) = true := by
  have hcode : ∀ n < 0x80, LowerAlphanumeric (Char.ofNat n) →
      isAlphanumeric (UInt8.ofNat n) = true := by
    decide +kernel
  have hspec := hcode c.toNat (lowerKeyChar_spec (.inl h)).1
  rw [Char.ofNat_toNat] at hspec
  exact hspec h

theorem LowerKey.keyText {key : String} (h : LowerKey key) : KeyText key := by
  have hchars := fun c hc => lowerKeyChar_spec (h.chars c hc)
  have hbytes : Utf8.encode key.toList = key.toList.map fun c => UInt8.ofNat c.toNat :=
    Utf8.encode_of_ascii fun c hc => (hchars c hc).1
  have hlower : key.toList.map ((fun b : UInt8 => (Char.ofNat b.toNat).toLower) ∘
      fun c => UInt8.ofNat c.toNat) = key.toList :=
    (List.map_congr_left fun c hc => (hchars c hc).2.2).trans (List.map_id _)
  constructor
  · rw [hbytes]
    obtain ⟨c, hc, hfirst⟩ := h.first
    refine ⟨⟨_, ?_, isAlphanumeric_of_lower hfirst⟩, ?_, List.forall_mem_map.mpr fun c hc =>
      (hchars c hc).2.1⟩
    · rw [List.head?_map, Option.mem_def.mp hc]
      rfl
    · rw [List.length_map]
      exact h.length
  · rw [hbytes, Document.keyText, List.map_map, hlower, String.ofList_toList]

theorem Renderable.bare {pair : Pair} (h : Renderable pair) : Bare pair.2 := by
  obtain ⟨c, hc, hwsp⟩ := h.last
  refine ⟨h.first, c, hc, hwsp, ?_⟩
  rintro rfl
  exact h.line (List.mem_of_getLast? hc)

-- Reading undoes rendering exactly if no line is too long. Colons, carriage returns and all that is
-- not ASCII may stand in the values.
theorem parse_rendered_iff {pairs : List Pair} (h : ∀ pair ∈ pairs, Renderable pair)
    (limits : Limits) :
    Document.parse limits (Utf8.encode (rendered pairs).toList) = (pairs, .empty) ↔
      ∀ pair ∈ pairs, ((lineBytes pair.1 pair.2).length : Int) ≤ limits.lineLength := by
  have htold : ∀ pair ∈ pairs, Told pair ∧ '\n' ∉ pair.2.toList := fun pair hpair =>
    have hline := (h pair hpair).line
    ⟨told_of_bare (h pair hpair).key.keyText ⟨(h pair hpair).bare, hline⟩, hline⟩
  rw [encode_rendered, parse_document_iff limits htold, and_iff_left rfl]

-- Values with a colon and a blank inside, with a carriage return at the end, with a blank that is
-- not ASCII at the beginning, and with a vertical tab. The second line has 18 bytes.
def oddValues : List Pair :=
  [("mx", "a: b:\r"), ("x-1.y_z", "\u00a0é😀\x0b")]

theorem oddValues_parsed :
    (∀ pair ∈ oddValues, Renderable pair) ∧
      (∀ pair ∈ oddValues, ((lineBytes pair.1 pair.2).length : Int) ≤ 18) ∧
      Document.parse { Limits.standard with lineLength := 18 }
        (Utf8.encode (rendered oddValues).toList) = (oddValues, .empty) := by
  have hpairs : ∀ pair ∈ oddValues, Renderable pair := by
    decide
  have hfits : ∀ pair ∈ oddValues, ((lineBytes pair.1 pair.2).length : Int) ≤ 18 := by
    decide
  exact ⟨hpairs, hfits, (parse_rendered_iff hpairs _).mpr hfits⟩

end StrictTransport.Policy
