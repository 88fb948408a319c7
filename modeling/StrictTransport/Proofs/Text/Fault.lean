import StrictTransport.Proofs.Text.Utf8

namespace StrictTransport.Text.Utf8

def Begins (bytes : Bytes) : Prop :=
  ∃ c, bytes <+: String.utf8EncodeChar c

-- The first part of bytes that do not begin with a character: the longest one that begins a
-- character, or one byte if that begins none.
structure Faulty (bad rest : Bytes) : Prop where
  nonempty : bad ≠ []
  noChar : ∀ c, ¬String.utf8EncodeChar c <+: bad ++ rest
  begins : bad.length = 1 ∨ Begins bad
  longest : ∀ longer, longer <+: bad ++ rest → bad.length < longer.length → ¬Begins longer

-- What bytes say, with a replacement for every fault. Nothing is said of how they are read.
inductive Decodes : Bytes → List Char → Prop
  | nil : Decodes [] []
  | char (c : Char) {rest : Bytes} {cs : List Char} (hrest : Decodes rest cs) :
      Decodes (String.utf8EncodeChar c ++ rest) (c :: cs)
  | fault {bad rest : Bytes} {cs : List Char} (hbad : Faulty bad rest) (hrest : Decodes rest cs) :
      Decodes (bad ++ rest) (replacement :: cs)

-- Bytes that may follow a leading one, which bounds the first of them.
def Fits : UInt8 → UInt8 → Bytes → Prop
  | _, _, [] => True
  | low, high, b :: bytes => (low ≤ b ∧ b ≤ high) ∧ Fits 0x80 0xBF bytes

def carry (value : Nat) (bytes : Bytes) : Nat :=
  bytes.foldl (fun value b => value * 64 + (b.toNat - 0x80)) value

theorem carry_nil (value : Nat) : carry value [] = value := rfl

theorem carry_cons (value : Nat) (b : UInt8) (bytes : Bytes) :
    carry value (b :: bytes) = carry (value * 64 + (b.toNat - 0x80)) bytes := by
  rw [carry, List.foldl_cons, carry]

section Fits

variable {low high : UInt8} {part more : Bytes}

theorem Fits.of_append (h : Fits low high (part ++ more)) : Fits low high part := by
  induction part generalizing low high with
  | nil => trivial
  | cons b part ih => exact ⟨h.1, ih h.2⟩

-- Bytes that fit can be completed to as many as are asked for.
theorem Fits.exists_append (h : Fits low high part) (hbounds : low ≤ high) {n : Nat}
    (hn : part.length ≤ n) : ∃ more, (part ++ more).length = n ∧ Fits low high (part ++ more) := by
  induction n generalizing low high part with
  | zero =>
      obtain rfl := List.eq_nil_of_length_eq_zero (Nat.le_zero.mp hn)
      exact ⟨[], rfl, trivial⟩
  | succ n ih =>
      cases part with
      | nil =>
          have hempty : Fits 0x80 0xBF [] := trivial
          obtain ⟨more, hlength, hfits⟩ := ih hempty (by decide) (Nat.zero_le n)
          exact ⟨low :: more, congrArg (· + 1) hlength, ⟨UInt8.le_refl low, hbounds⟩, hfits⟩
      | cons b part =>
          obtain ⟨more, hlength, hfits⟩ := ih h.2 (by decide) (Nat.le_of_succ_le_succ hn)
          exact ⟨more, congrArg (· + 1) hlength, h.1, hfits⟩

end Fits

section Follow

variable {n taken : Nat} {low high : UInt8} {value : Nat} {rest : Bytes} {c : Char}

theorem follow_eq_some (h : follow n low high value taken rest = ⟨some c, more⟩) :
    ∃ part tail, rest = part ++ tail ∧ part.length = n ∧ more = taken + n ∧ Fits low high part ∧
      c = Char.ofNat (carry value part) := by
  induction n generalizing low high value taken rest with
  | zero =>
      rw [follow] at h
      cases h
      exact ⟨[], rest, rfl, rfl, rfl, trivial, rfl⟩
  | succ n ih =>
      cases rest with
      | nil => cases h
      | cons b rest =>
          rw [follow] at h
          split at h
          · rename_i hb
            rw [Bool.and_eq_true, decide_eq_true_iff, decide_eq_true_iff] at hb
            obtain ⟨part, tail, rfl, hlength, rfl, hfits, hc⟩ := ih h
            exact ⟨b :: part, tail, rfl, congrArg (· + 1) hlength, by omega, ⟨hb, hfits⟩,
              by rw [hc, carry_cons]⟩
          · cases h

-- What cannot be followed to the end stops behind the longest part that fits.
theorem follow_eq_none (h : follow n low high value taken rest = ⟨none, more⟩) :
    ∃ part tail, rest = part ++ tail ∧ part.length < n ∧ more = taken + part.length ∧
      Fits low high part ∧ ∀ b ∈ tail.head?, ¬Fits low high (part ++ [b]) := by
  induction n generalizing low high value taken rest with
  | zero => cases h
  | succ n ih =>
      cases rest with
      | nil =>
          cases h
          exact ⟨[], [], rfl, Nat.succ_pos n, rfl, trivial, by simp⟩
      | cons b rest =>
          rw [follow] at h
          split at h
          · rename_i hb
            rw [Bool.and_eq_true, decide_eq_true_iff, decide_eq_true_iff] at hb
            obtain ⟨part, tail, rfl, hlength, rfl, hfits, hstop⟩ := ih h
            refine ⟨b :: part, tail, rfl, Nat.succ_lt_succ hlength, ?_, ⟨hb, hfits⟩, ?_⟩
            · rw [List.length_cons]
              omega
            · exact fun d hd hlonger => hstop d hd hlonger.2
          · rename_i hb
            cases h
            refine ⟨[], b :: rest, rfl, Nat.succ_pos n, rfl, trivial, fun d hd hfits => hb ?_⟩
            obtain rfl := Option.some.inj hd
            rw [Bool.and_eq_true, decide_eq_true_iff, decide_eq_true_iff]
            exact hfits.1

end Follow

section Lead

variable {b : UInt8} {l : Lead}

-- The classes of leading bytes, by how many bytes follow them. Where the first of these has bounds
-- of its own, they keep out what has another encoding or none.
theorem lead?_cases (h : lead? b = some l) :
    (l.following = 1 ∧ 0xC2 ≤ b.toNat ∧ b.toNat ≤ 0xDF ∧ l.bits + 0xC0 = b.toNat) ∨
      (l.following = 2 ∧ 0xE0 ≤ b.toNat ∧ b.toNat ≤ 0xEF ∧ l.bits + 0xE0 = b.toNat ∧
        (b.toNat = 0xE0 → 0xA0 ≤ l.low.toNat) ∧ (b.toNat = 0xED → l.high.toNat ≤ 0x9F)) ∨
      (l.following = 3 ∧ 0xF0 ≤ b.toNat ∧ b.toNat ≤ 0xF4 ∧ l.bits + 0xF0 = b.toNat ∧
        (b.toNat = 0xF0 → 0x90 ≤ l.low.toNat) ∧ (b.toNat = 0xF4 → l.high.toNat ≤ 0x8F)) := by
  unfold lead? at h
  simp only [Bool.and_eq_true, decide_eq_true_iff, UInt8.le_iff_toNat_le, beq_iff_eq,
    ← UInt8.toNat_inj, UInt8.reduceToNat] at h
  split_ifs at h
  all_goals
    obtain rfl := Option.some.inj h
    dsimp only
    simp only [UInt8.reduceToNat, true_and]
    omega

theorem lead?_le (h : lead? b = some l) :
    0x80 ≤ b ∧ 0x80 ≤ l.low ∧ l.low ≤ l.high ∧ l.high ≤ 0xBF := by
  unfold lead? at h
  simp only [Bool.and_eq_true, decide_eq_true_iff, UInt8.le_iff_toNat_le, beq_iff_eq,
    ← UInt8.toNat_inj, UInt8.reduceToNat] at h
  split_ifs at h
  all_goals
    obtain rfl := Option.some.inj h
    dsimp only
    simp only [UInt8.le_iff_toNat_le, UInt8.reduceToNat]
    omega

theorem ofNat_eq {n : Nat} {a : UInt8} (h : n = a.toNat) : UInt8.ofNat n = a := by
  rw [h, UInt8.ofNat_toNat]

-- A leading byte and the bytes that have to follow it are the encoding of a character.
theorem utf8EncodeChar_of_fits {part : Bytes} (h : lead? b = some l)
    (hlength : part.length = l.following) (hfits : Fits l.low l.high part) :
    String.utf8EncodeChar (Char.ofNat (carry l.bits part)) = b :: part := by
  obtain ⟨-, hlow, -, hhigh⟩ := lead?_le h
  have htoNat : ∀ v : Nat, v.isValidChar → (Char.ofNat v).toNat = v :=
    fun _ => toNat_ofNat_of_isValidChar
  unfold Nat.isValidChar at htoNat
  simp only [UInt8.le_iff_toNat_le, UInt8.reduceToNat] at hlow hhigh
  rcases lead?_cases h with ⟨hfollowing, hb⟩ | ⟨hfollowing, hb⟩ | ⟨hfollowing, hb⟩
  · rw [hfollowing] at hlength
    obtain ⟨x, rfl⟩ := List.length_eq_one_iff.mp hlength
    obtain ⟨⟨hx, hx'⟩, -⟩ := hfits
    simp only [UInt8.le_iff_toNat_le] at hx hx'
    rw [carry_cons, carry_nil]
    rw [utf8EncodeChar_eq, htoNat _ (by omega), if_neg (by omega), if_pos (by omega),
      ofNat_eq (a := b) (by omega), ofNat_eq (a := x) (by omega)]
  · rw [hfollowing] at hlength
    obtain ⟨x, y, rfl⟩ := List.length_eq_two.mp hlength
    obtain ⟨⟨hx, hx'⟩, ⟨hy, hy'⟩, -⟩ := hfits
    simp only [UInt8.le_iff_toNat_le, UInt8.reduceToNat] at hx hx' hy hy'
    rw [carry_cons, carry_cons, carry_nil]
    rw [utf8EncodeChar_eq, htoNat _ (by omega), if_neg (by omega), if_neg (by omega),
      if_pos (by omega), ofNat_eq (a := b) (by omega), ofNat_eq (a := x) (by omega),
      ofNat_eq (a := y) (by omega)]
  · rw [hfollowing] at hlength
    obtain ⟨x, y, z, rfl⟩ := List.length_eq_three.mp hlength
    obtain ⟨⟨hx, hx'⟩, ⟨hy, hy'⟩, ⟨hz, hz'⟩, -⟩ := hfits
    simp only [UInt8.le_iff_toNat_le, UInt8.reduceToNat] at hx hx' hy hy' hz hz'
    rw [carry_cons, carry_cons, carry_cons, carry_nil]
    rw [utf8EncodeChar_eq, htoNat _ (by omega), if_neg (by omega), if_neg (by omega),
      if_neg (by omega), ofNat_eq (a := b) (by omega), ofNat_eq (a := x) (by omega),
      ofNat_eq (a := y) (by omega), ofNat_eq (a := z) (by omega)]

-- There are no encodings but these, beside the single bytes of ASCII.
theorem of_utf8EncodeChar {c : Char} {part : Bytes} (h : String.utf8EncodeChar c = b :: part) :
    b < 0x80 ∧ part = [] ∨
      ∃ l, lead? b = some l ∧ part.length = l.following ∧ Fits l.low l.high part := by
  obtain ⟨b', part', hbytes, hpiece, -⟩ := piece_utf8EncodeChar c []
  obtain ⟨rfl, rfl⟩ := List.cons.inj (hbytes.symm.trans h)
  rw [List.append_nil, piece] at hpiece
  split at hpiece
  · rename_i hb
    exact .inl ⟨hb, List.eq_nil_of_length_eq_zero (Piece.mk.inj hpiece).2.symm⟩
  · cases hlead : lead? b' with
    | none =>
        rw [hlead] at hpiece
        cases hpiece
    | some l =>
        rw [hlead] at hpiece
        obtain ⟨front, tail, heq, hlength, hmore, hfits, -⟩ := follow_eq_some hpiece
        obtain rfl : tail = [] := by
          have hsum := congrArg List.length heq
          rw [List.length_append] at hsum
          exact List.eq_nil_of_length_eq_zero (by omega)
        rw [List.append_nil] at heq
        exact .inr ⟨l, rfl, heq ▸ hlength, heq ▸ hfits⟩

theorem begins_cons_iff {part : Bytes} (hb : 0x80 ≤ b) :
    Begins (b :: part) ↔
      ∃ l, lead? b = some l ∧ part.length ≤ l.following ∧ Fits l.low l.high part := by
  constructor
  · rintro ⟨c, rest, hc⟩
    rw [List.cons_append] at hc
    rcases of_utf8EncodeChar hc.symm with ⟨hascii, -⟩ | ⟨l, hl, hlength, hfits⟩
    · exact absurd hascii (UInt8.not_lt.mpr hb)
    · refine ⟨l, hl, ?_, hfits.of_append⟩
      rw [← hlength, List.length_append]
      exact Nat.le_add_right _ _
  · rintro ⟨l, hl, hlength, hfits⟩
    obtain ⟨more, hmore, hall⟩ := hfits.exists_append (lead?_le hl).2.2.1 hlength
    exact ⟨_, more, (utf8EncodeChar_of_fits hl hmore hall).symm⟩

end Lead

section Decodes

variable {b : UInt8} {bad rest : Bytes} {c : Char} {n : Nat}

-- A character that is read is the one whose encoding stands there.
theorem utf8EncodeChar_of_piece (h : piece b rest = ⟨some c, n⟩) :
    ∃ part, String.utf8EncodeChar c = b :: part ∧ rest = part ++ rest.drop n := by
  rw [piece] at h
  split at h
  · rename_i hb
    obtain ⟨hc, rfl⟩ := Piece.mk.inj h
    rw [UInt8.lt_iff_toNat_lt] at hb
    refine ⟨[], ?_, rfl⟩
    rw [← Option.some.inj hc, utf8EncodeChar_of_ascii _ (by rwa [toNat_ofNat_byte]),
      toNat_ofNat_byte, UInt8.ofNat_toNat]
  · cases hl : lead? b with
    | none =>
        rw [hl] at h
        cases h
    | some l =>
        rw [hl] at h
        obtain ⟨part, tail, rfl, hlength, rfl, hfits, rfl⟩ := follow_eq_some h
        refine ⟨part, utf8EncodeChar_of_fits hl hlength hfits, ?_⟩
        rw [Nat.zero_add, ← hlength, List.drop_left]

-- Where no character is read, none stands.
theorem noChar_of_piece (h : piece b rest = ⟨none, n⟩) (c : Char) :
    ¬String.utf8EncodeChar c <+: b :: rest := by
  rintro ⟨tail, hc⟩
  obtain ⟨b', part, hbytes, hpiece, -⟩ := piece_utf8EncodeChar c tail
  rw [hbytes, List.cons_append] at hc
  obtain ⟨rfl, rfl⟩ := List.cons.inj hc
  rw [hpiece] at h
  cases h

theorem faulty_of_lead?_eq_none (hb : 0x80 ≤ b) (hl : lead? b = none)
    (hnoChar : ∀ c, ¬String.utf8EncodeChar c <+: b :: rest) : Faulty [b] rest := by
  refine ⟨List.cons_ne_nil _ _, hnoChar, .inl rfl, ?_⟩
  rintro longer ⟨tail, hlonger⟩ hlength hbegins
  cases longer with
  | nil => cases hlength
  | cons a longer =>
      obtain rfl : a = b := (List.cons.inj hlonger).1
      obtain ⟨l, hl', -⟩ := (begins_cons_iff hb).mp hbegins
      rw [hl] at hl'
      cases hl'

-- A leading byte whose followers break off is a fault together with those that fit.
theorem faulty_of_stop {l : Lead} {part tail : Bytes} (hb : 0x80 ≤ b) (hl : lead? b = some l)
    (hnoChar : ∀ c, ¬String.utf8EncodeChar c <+: b :: (part ++ tail))
    (hlength : part.length < l.following) (hfits : Fits l.low l.high part)
    (hstop : ∀ d ∈ tail.head?, ¬Fits l.low l.high (part ++ [d])) : Faulty (b :: part) tail := by
  have hbegins : Begins (b :: part) :=
    (begins_cons_iff hb).mpr ⟨l, hl, Nat.le_of_lt hlength, hfits⟩
  refine ⟨List.cons_ne_nil _ _, hnoChar, .inr hbegins, ?_⟩
  rintro longer ⟨left, hlonger⟩ hmore hlong
  cases longer with
  | nil => cases hmore
  | cons a longer =>
      rw [List.cons_append, List.cons_append] at hlonger
      obtain ⟨rfl, hrest⟩ := List.cons.inj hlonger
      obtain ⟨l', hl', -, hfits'⟩ := (begins_cons_iff hb).mp hlong
      obtain rfl : l' = l := Option.some.inj (hl'.symm.trans hl)
      rcases List.append_eq_append_iff.mp hrest with ⟨more, rfl, rfl⟩ | ⟨more, rfl, rfl⟩
      · rw [List.length_cons, List.length_cons, List.length_append] at hmore
        omega
      · cases more with
        | nil => simp at hmore
        | cons d more =>
            rw [← List.singleton_append, ← List.append_assoc] at hfits'
            exact hstop d rfl hfits'.of_append

theorem faulty_of_piece (h : piece b rest = ⟨none, n⟩) :
    ∃ part, Faulty (b :: part) (rest.drop n) ∧ rest = part ++ rest.drop n := by
  have hb : 0x80 ≤ b := by
    refine UInt8.not_lt.mp fun hascii => ?_
    rw [piece_of_ascii b rest hascii] at h
    cases h
  have hnoChar := noChar_of_piece h
  rw [piece, if_neg (UInt8.not_lt.mpr hb)] at h
  cases hl : lead? b with
  | none =>
      rw [hl] at h
      cases h
      exact ⟨[], faulty_of_lead?_eq_none hb hl hnoChar, rfl⟩
  | some l =>
      rw [hl] at h
      obtain ⟨part, tail, rfl, hlength, rfl, hfits, hstop⟩ := follow_eq_none h
      rw [Nat.zero_add, List.drop_left]
      exact ⟨part, faulty_of_stop hb hl hnoChar hlength hfits hstop, rfl⟩

-- The bytes of a fault are as many as they can be, so that no other ones make it.
theorem Faulty.length_eq {bad' rest' : Bytes} (h : Faulty bad rest) (h' : Faulty bad' rest')
    (hsame : bad ++ rest = bad' ++ rest') : bad.length = bad'.length := by
  have hle : ∀ {bad rest bad' rest' : Bytes}, Faulty bad rest → Faulty bad' rest' →
      bad ++ rest = bad' ++ rest' → bad'.length ≤ bad.length := by
    intro bad rest bad' rest' h h' hsame
    by_contra hlonger
    rcases h'.begins with hone | hbegins
    · exact h.nonempty (List.eq_nil_of_length_eq_zero (by omega))
    · exact h.longest bad' ⟨rest', hsame.symm⟩ (by omega) hbegins
  exact Nat.le_antisymm (hle h' h hsame.symm) (hle h h' hsame)

theorem Faulty.decodeLossy_append (h : Faulty bad rest) :
    decodeLossy (bad ++ rest) = replacement :: decodeLossy rest := by
  obtain ⟨b, part, rfl⟩ := List.exists_cons_of_ne_nil h.nonempty
  rw [List.cons_append, decodeLossy_cons]
  cases hpiece : piece b (part ++ rest) with
  | mk char? n =>
      cases char? with
      | some c =>
          obtain ⟨more, hbytes, hmore⟩ := utf8EncodeChar_of_piece hpiece
          refine absurd ?_ (h.noChar c)
          rw [hbytes, List.cons_append, hmore]
          exact ⟨_, rfl⟩
      | none =>
          obtain ⟨more, hfaulty, hmore⟩ := faulty_of_piece hpiece
          have hlength := h.length_eq hfaulty (congrArg (b :: ·) hmore)
          have hsame := List.append_inj hmore (Nat.succ.inj hlength)
          rw [← hsame.2]
          rfl

theorem Decodes.decodeLossy_eq {bytes : Bytes} {cs : List Char} (h : Decodes bytes cs) :
    decodeLossy bytes = cs := by
  induction h with
  | nil => rfl
  | char c _ ih => rw [decodeLossy_utf8EncodeChar_append, ih]
  | fault hbad _ ih => rw [hbad.decodeLossy_append, ih]

theorem decodes_decodeLossy (bytes : Bytes) : Decodes bytes (decodeLossy bytes) := by
  cases bytes with
  | nil => exact .nil
  | cons b rest =>
      rw [decodeLossy_cons]
      cases hpiece : piece b rest with
      | mk char? n =>
          have hrest := decodes_decodeLossy (rest.drop n)
          dsimp only
          generalize decodeLossy (rest.drop n) = cs at hrest ⊢
          cases char? with
          | some c =>
              obtain ⟨part, hbytes, hpart⟩ := utf8EncodeChar_of_piece hpiece
              rw [hpart, ← List.cons_append, ← hbytes]
              exact .char c hrest
          | none =>
              obtain ⟨part, hfaulty, hpart⟩ := faulty_of_piece hpiece
              rw [hpart, ← List.cons_append]
              exact .fault hfaulty hrest
termination_by bytes.length
decreasing_by
  rw [List.length_drop, List.length_cons]
  omega

theorem decodeLossy_eq_iff {bytes : Bytes} {cs : List Char} :
    decodeLossy bytes = cs ↔ Decodes bytes cs :=
  ⟨fun h => h ▸ decodes_decodeLossy bytes, Decodes.decodeLossy_eq⟩

end Decodes

end StrictTransport.Text.Utf8
