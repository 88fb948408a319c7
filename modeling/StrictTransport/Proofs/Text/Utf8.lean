import Mathlib.Algebra.Group.Nat.Defs
import Mathlib.Data.List.Basic
import Mathlib.Data.Char
import StrictTransport.Text.Utf8

namespace StrictTransport.Text.Utf8

theorem scan_skip (skip : Nat) (done : List (Option Char)) (bytes : Bytes) :
    scan skip done bytes = scan 0 done (bytes.drop skip) := by
  induction bytes generalizing skip with
  | nil => cases skip <;> rfl
  | cons b rest ih =>
      cases skip with
      | zero => rfl
      | succ skip => exact ih skip

theorem scan_append (skip : Nat) (done : List (Option Char)) (bytes : Bytes) :
    scan skip done bytes = scan skip [] bytes ++ done := by
  induction bytes generalizing skip done with
  | nil => cases skip <;> rfl
  | cons b rest ih =>
      cases skip with
      | zero =>
          rw [scan, ih, scan, ih _ [_], List.append_assoc]
          rfl
      | succ skip => exact ih skip done

theorem pieces_cons (b : UInt8) (rest : Bytes) :
    pieces (b :: rest) = (piece b rest).char? :: pieces (rest.drop (piece b rest).more) := by
  rw [pieces, scan, scan_append, scan_skip, List.reverse_append]
  rfl

theorem decodeLossy_cons (b : UInt8) (rest : Bytes) :
    decodeLossy (b :: rest) =
      (piece b rest).char?.getD replacement :: decodeLossy (rest.drop (piece b rest).more) := by
  rw [decodeLossy, pieces_cons]
  rfl

-- The first byte that follows may have bounds of its own, the others have six free bits.
theorem follow_bounds (n : Nat) (low high : UInt8) (value taken : Nat) (rest : Bytes) (c : Char)
    (h : (follow (n + 1) low high value taken rest).char? = some c) :
    ∃ v, c = Char.ofNat v ∧ (value * 64 + (low.toNat - 0x80)) * 64 ^ n ≤ v ∧
      v < (value * 64 + (high.toNat - 0x80) + 1) * 64 ^ n := by
  induction n generalizing low high value taken rest with
  | zero =>
      cases rest with
      | nil => simp [follow] at h
      | cons b rest =>
          rw [follow] at h
          split at h
          · next hb =>
              rw [Bool.and_eq_true, decide_eq_true_iff, decide_eq_true_iff,
                UInt8.le_iff_toNat_le, UInt8.le_iff_toNat_le] at hb
              refine ⟨value * 64 + (b.toNat - 0x80), (Option.some.inj h).symm, ?_, ?_⟩ <;> omega
          · simp at h
  | succ n ih =>
      cases rest with
      | nil => simp [follow] at h
      | cons b rest =>
          rw [follow] at h
          split at h
          · next hb =>
              rw [Bool.and_eq_true, decide_eq_true_iff, decide_eq_true_iff,
                UInt8.le_iff_toNat_le, UInt8.le_iff_toNat_le] at hb
              obtain ⟨v, hc, hlow, hhigh⟩ := ih 0x80 0xBF _ _ rest h
              refine ⟨v, hc, le_trans ?_ hlow, lt_of_lt_of_le hhigh ?_⟩
              all_goals
                rw [Nat.pow_succ', ← Nat.mul_assoc]
                apply Nat.mul_le_mul_right
                simp only [UInt8.reduceToNat]
                omega
          · simp at h

-- The bounds of a leading byte keep its characters out of ASCII and among the valid ones.
theorem lead?_bounds (b : UInt8) (l : Lead) (h : lead? b = some l) :
    ∃ n, l.following = n + 1 ∧ ∀ v, (l.bits * 64 + (l.low.toNat - 0x80)) * 64 ^ n ≤ v →
      v < (l.bits * 64 + (l.high.toNat - 0x80) + 1) * 64 ^ n → 0x80 ≤ v ∧ v.isValidChar := by
  unfold lead? at h
  simp only [Bool.and_eq_true, decide_eq_true_iff, UInt8.le_iff_toNat_le, beq_iff_eq,
    ← UInt8.toNat_inj, UInt8.reduceToNat] at h
  split_ifs at h
  all_goals
    obtain rfl := Option.some.inj h
    refine ⟨_, rfl, fun v hlow hhigh => ?_⟩
    simp only [UInt8.reduceToNat] at hlow hhigh
    unfold Nat.isValidChar
    omega

theorem toNat_ofNat_of_isValidChar {n : Nat} (h : n.isValidChar) : (Char.ofNat n).toNat = n := by
  rw [Char.ofNat, dif_pos h]
  rfl

-- Bytes beyond ASCII make characters beyond ASCII.
theorem piece_toNat_ge (b : UInt8) (rest : Bytes) (hb : 0x80 ≤ b) :
    0x80 ≤ ((piece b rest).char?.getD replacement).toNat := by
  cases h : (piece b rest).char? with
  | none => decide
  | some c =>
      rw [piece, if_neg (UInt8.not_lt.mpr hb)] at h
      cases hl : lead? b with
      | none => simp [hl] at h
      | some l =>
          obtain ⟨n, hn, hvalid⟩ := lead?_bounds b l hl
          simp only [hl, hn] at h
          obtain ⟨v, rfl, hlow, hhigh⟩ := follow_bounds n _ _ _ _ rest c h
          obtain ⟨hge, hv⟩ := hvalid v hlow hhigh
          rw [Option.getD_some, toNat_ofNat_of_isValidChar hv]
          exact hge

theorem piece_of_ascii (b : UInt8) (rest : Bytes) (hb : b < 0x80) :
    piece b rest = ⟨some (Char.ofNat b.toNat), 0⟩ := by
  rw [piece, if_pos hb]

theorem toNat_ofNat_byte (b : UInt8) : (Char.ofNat b.toNat).toNat = b.toNat :=
  toNat_ofNat_of_isValidChar (Or.inl (by have := b.toNat_lt; omega))

@[simp] theorem decodeLossy_nil : decodeLossy [] = [] := rfl

theorem decodeLossy_eq_nil_iff (bytes : Bytes) : decodeLossy bytes = [] ↔ bytes = [] := by
  cases bytes with
  | nil => simp
  | cons b rest => simp [decodeLossy_cons]

-- An ASCII character at the front of a text stands for the byte at the front.
theorem decodeLossy_eq_cons_of_ascii (bytes : Bytes) (c : Char) (cs : List Char)
    (h : decodeLossy bytes = c :: cs) (hc : c.toNat < 0x80) :
    ∃ rest, bytes = UInt8.ofNat c.toNat :: rest ∧ decodeLossy rest = cs := by
  cases bytes with
  | nil => simp at h
  | cons b rest =>
      rw [decodeLossy_cons] at h
      obtain ⟨rfl, rfl⟩ := List.cons.inj h
      have hb : b < 0x80 := by
        by_contra hb
        have := piece_toNat_ge b rest (UInt8.not_lt.mp hb)
        omega
      refine ⟨rest, ?_, ?_⟩
      · simp [piece_of_ascii b rest hb, toNat_ofNat_byte]
      · rw [piece_of_ascii b rest hb, List.drop_zero]

-- So does one anywhere else, and the bytes behind it make the text behind it.
theorem decodeLossy_eq_append_of_ascii (bytes : Bytes) (front : List Char) (c : Char)
    (cs : List Char) (h : decodeLossy bytes = front ++ c :: cs) (hc : c.toNat < 0x80) :
    ∃ before rest, bytes = before ++ UInt8.ofNat c.toNat :: rest ∧ decodeLossy rest = cs := by
  induction front generalizing bytes with
  | nil =>
      obtain ⟨rest, hrest, hcs⟩ := decodeLossy_eq_cons_of_ascii bytes c cs h hc
      exact ⟨[], rest, hrest, hcs⟩
  | cons a front ih =>
      cases bytes with
      | nil => simp at h
      | cons b tail =>
          rw [decodeLossy_cons] at h
          obtain ⟨-, htail⟩ := List.cons.inj h
          obtain ⟨before, rest, hdrop, hcs⟩ := ih _ htail
          refine ⟨b :: (tail.take (piece b tail).more ++ before), rest, ?_, hcs⟩
          rw [List.cons_append, List.append_assoc, ← hdrop, List.take_append_drop]

theorem mem_of_mem_decodeLossy (bytes : Bytes) (c : Char) (hc : c.toNat < 0x80)
    (h : c ∈ decodeLossy bytes) : UInt8.ofNat c.toNat ∈ bytes := by
  obtain ⟨front, cs, hsplit⟩ := List.append_of_mem h
  obtain ⟨before, rest, rfl, -⟩ := decodeLossy_eq_append_of_ascii bytes front c cs hsplit hc
  simp

theorem getLast?_of_getLast?_decodeLossy (bytes : Bytes) (c : Char) (hc : c.toNat < 0x80)
    (h : (decodeLossy bytes).getLast? = some c) : bytes.getLast? = some (UInt8.ofNat c.toNat) := by
  obtain ⟨front, hsplit⟩ := List.getLast?_eq_some_iff.mp h
  obtain ⟨before, rest, rfl, hrest⟩ := decodeLossy_eq_append_of_ascii bytes front c [] hsplit hc
  rw [(decodeLossy_eq_nil_iff rest).mp hrest]
  simp

theorem utf8EncodeChar_of_ascii (c : Char) (h : c.toNat < 0x80) :
    String.utf8EncodeChar c = [UInt8.ofNat c.toNat] := by
  rw [String.utf8EncodeChar, if_pos]
  · rfl
  · exact Nat.le_of_lt_succ h

theorem follow_cons (n : Nat) (low high b : UInt8) (value taken : Nat) (rest : Bytes)
    (hlow : low.toNat ≤ b.toNat) (hhigh : b.toNat ≤ high.toNat) :
    follow (n + 1) low high value taken (b :: rest) =
      follow n 0x80 0xBF (value * 64 + (b.toNat - 0x80)) (taken + 1) rest := by
  rw [follow, if_pos]
  rw [Bool.and_eq_true, decide_eq_true_iff, decide_eq_true_iff, UInt8.le_iff_toNat_le,
    UInt8.le_iff_toNat_le]
  exact ⟨hlow, hhigh⟩

theorem toNat_ofNat_of_lt (n : Nat) (h : n < 256) : (UInt8.ofNat n).toNat = n := by
  rw [UInt8.toNat_ofNat']
  exact Nat.mod_eq_of_lt h

-- The demands of a leading byte `n` whose next byte is `m` and whose following bytes carry on
-- from the bits of both.
theorem piece_of_lead (n m following bits : Nat) (bs : Bytes) (hn : n < 256) (hm : m < 256)
    (h : (following = 0 ∧ 0xC2 ≤ n ∧ n ≤ 0xDF ∧ bits + 0xC0 = n ∧ 0x80 ≤ m ∧ m ≤ 0xBF) ∨
      (following = 1 ∧ 0xE0 ≤ n ∧ n ≤ 0xEF ∧ bits + 0xE0 = n ∧ 0x80 ≤ m ∧ m ≤ 0xBF ∧
        (n = 0xE0 → 0xA0 ≤ m) ∧ (n = 0xED → m ≤ 0x9F)) ∨
      (following = 2 ∧ 0xF0 ≤ n ∧ n ≤ 0xF4 ∧ bits + 0xF0 = n ∧ 0x80 ≤ m ∧ m ≤ 0xBF ∧
        (n = 0xF0 → 0x90 ≤ m) ∧ (n = 0xF4 → m ≤ 0x8F))) :
    piece (UInt8.ofNat n) (UInt8.ofNat m :: bs) =
      follow following 0x80 0xBF (bits * 64 + (m - 0x80)) 1 bs := by
  have hlead : ∃ l, lead? (UInt8.ofNat n) = some l ∧ l.following = following + 1 ∧
      l.bits = bits ∧ l.low.toNat ≤ m ∧ m ≤ l.high.toNat := by
    unfold lead?
    simp only [Bool.and_eq_true, decide_eq_true_iff, UInt8.le_iff_toNat_le, beq_iff_eq,
      ← UInt8.toNat_inj, UInt8.reduceToNat, toNat_ofNat_of_lt n hn]
    split_ifs
    all_goals first
      | omega
      | exact ⟨_, rfl, by simp only; omega, by simp only; omega,
          by simp only [UInt8.reduceToNat]; omega, by simp only [UInt8.reduceToNat]; omega⟩
  obtain ⟨l, hl, hfollowing, hbits, hlow, hhigh⟩ := hlead
  have hge : ¬UInt8.ofNat n < 0x80 := by
    rw [UInt8.lt_iff_toNat_lt, toNat_ofNat_of_lt n hn]
    exact Nat.not_lt.mpr (show 0x80 ≤ n by omega)
  simp only [piece, if_neg hge, hl, hfollowing, hbits]
  rw [follow_cons _ _ _ _ _ _ _ (by rwa [toNat_ofNat_of_lt m hm]) (by rwa [toNat_ofNat_of_lt m hm]),
    toNat_ofNat_of_lt m hm]

theorem follow_tail (n m value taken : Nat) (bs : Bytes) (hm : m < 64) :
    follow (n + 1) 0x80 0xBF value taken (UInt8.ofNat (m + 0x80) :: bs) =
      follow n 0x80 0xBF (value * 64 + m) (taken + 1) bs := by
  have h := toNat_ofNat_of_lt (m + 0x80) (by omega)
  rw [follow_cons _ _ _ _ _ _ _ (by simp only [h, UInt8.reduceToNat]; omega)
    (by simp only [h, UInt8.reduceToNat]; omega), h, Nat.add_sub_cancel]

theorem utf8EncodeChar_eq (c : Char) :
    String.utf8EncodeChar c =
      if c.toNat ≤ 0x7F then [UInt8.ofNat c.toNat]
      else if c.toNat ≤ 0x7FF then
        [UInt8.ofNat (c.toNat / 64 % 0x20 + 0xC0), UInt8.ofNat (c.toNat % 0x40 + 0x80)]
      else if c.toNat ≤ 0xFFFF then
        [UInt8.ofNat (c.toNat / 4096 % 0x10 + 0xE0), UInt8.ofNat (c.toNat / 64 % 0x40 + 0x80),
          UInt8.ofNat (c.toNat % 0x40 + 0x80)]
      else
        [UInt8.ofNat (c.toNat / 262144 % 0x08 + 0xF0), UInt8.ofNat (c.toNat / 4096 % 0x40 + 0x80),
          UInt8.ofNat (c.toNat / 64 % 0x40 + 0x80), UInt8.ofNat (c.toNat % 0x40 + 0x80)] :=
  rfl

-- The bytes of a character are one piece, whatever follows them.
theorem piece_utf8EncodeChar (c : Char) (rest : Bytes) :
    ∃ b bs, String.utf8EncodeChar c = b :: bs ∧ piece b (bs ++ rest) = ⟨some c, bs.length⟩ ∧
      (0x80 ≤ c.toNat → ∀ a ∈ b :: bs, 0x80 ≤ a) := by
  have hvalid : c.toNat.isValidChar := c.valid
  have hc : Char.ofNat c.toNat = c := Char.ofNat_toNat c
  rw [utf8EncodeChar_eq]
  generalize c.toNat = v at hvalid hc ⊢
  unfold Nat.isValidChar at hvalid
  have hge : ∀ n, 0x80 ≤ n → n < 256 → 0x80 ≤ UInt8.ofNat n := by
    intro n hn hlt
    rwa [UInt8.le_iff_toNat_le, toNat_ofNat_of_lt n hlt]
  split_ifs with h1 h2 h3
  · refine ⟨_, _, rfl, ?_, fun h => by omega⟩
    rw [piece_of_ascii, toNat_ofNat_of_lt v (by omega), hc]
    · rfl
    · rw [UInt8.lt_iff_toNat_lt, toNat_ofNat_of_lt v (by omega)]
      exact Nat.lt_succ_of_le h1
  · refine ⟨_, _, rfl, ?_, fun _ => ?_⟩
    · rw [List.singleton_append, piece_of_lead _ _ 0 (v / 64) _ (by omega) (by omega) (by omega),
        follow, show v / 64 * 64 + (v % 0x40 + 0x80 - 0x80) = v by omega, hc]
      rfl
    · simp only [List.mem_cons, List.not_mem_nil, or_false, forall_eq_or_imp, forall_eq]
      exact ⟨hge _ (by omega) (by omega), hge _ (by omega) (by omega)⟩
  · refine ⟨_, _, rfl, ?_, fun _ => ?_⟩
    · rw [List.cons_append, List.singleton_append,
        piece_of_lead _ _ 1 (v / 4096) _ (by omega) (by omega) (by omega),
        follow_tail _ _ _ _ _ (by omega), follow,
        show (v / 4096 * 64 + (v / 64 % 0x40 + 0x80 - 0x80)) * 64 + v % 0x40 = v by omega, hc]
      rfl
    · simp only [List.mem_cons, List.not_mem_nil, or_false, forall_eq_or_imp, forall_eq]
      exact ⟨hge _ (by omega) (by omega), hge _ (by omega) (by omega),
        hge _ (by omega) (by omega)⟩
  · refine ⟨_, _, rfl, ?_, fun _ => ?_⟩
    · rw [List.cons_append, List.cons_append, List.singleton_append,
        piece_of_lead _ _ 2 (v / 262144) _ (by omega) (by omega) (by omega),
        follow_tail _ _ _ _ _ (by omega), follow_tail _ _ _ _ _ (by omega), follow,
        show ((v / 262144 * 64 + (v / 4096 % 0x40 + 0x80 - 0x80)) * 64 + v / 64 % 0x40) * 64 +
          v % 0x40 = v by omega, hc]
      rfl
    · simp only [List.mem_cons, List.not_mem_nil, or_false, forall_eq_or_imp, forall_eq]
      exact ⟨hge _ (by omega) (by omega), hge _ (by omega) (by omega),
        hge _ (by omega) (by omega), hge _ (by omega) (by omega)⟩

theorem decodeLossy_utf8EncodeChar_append (c : Char) (rest : Bytes) :
    decodeLossy (String.utf8EncodeChar c ++ rest) = c :: decodeLossy rest := by
  obtain ⟨b, part, hbytes, hpiece, -⟩ := piece_utf8EncodeChar c rest
  rw [hbytes, List.cons_append, decodeLossy_cons, hpiece]
  simp only [Option.getD_some, List.drop_left]

theorem decodeLossy_encode (cs : List Char) : decodeLossy (encode cs) = cs := by
  induction cs with
  | nil => rfl
  | cons c cs ih =>
      rw [encode, List.flatMap_cons, decodeLossy_utf8EncodeChar_append, ← encode, ih]

theorem decodeLossy_of_ascii {bytes : Bytes} (h : ∀ b ∈ bytes, b < 0x80) :
    decodeLossy bytes = bytes.map fun b => Char.ofNat b.toNat := by
  induction bytes with
  | nil => rfl
  | cons b bytes ih =>
      obtain ⟨hb, hbytes⟩ := List.forall_mem_cons.mp h
      rw [decodeLossy_cons, piece_of_ascii b bytes hb, List.drop_zero, ih hbytes]
      rfl

theorem encode_append (cs ds : List Char) : encode (cs ++ ds) = encode cs ++ encode ds :=
  List.flatMap_append

theorem encode_of_ascii {cs : List Char} (h : ∀ c ∈ cs, c.toNat < 0x80) :
    encode cs = cs.map fun c => UInt8.ofNat c.toNat := by
  induction cs with
  | nil => rfl
  | cons c cs ih =>
      obtain ⟨hc, hcs⟩ := List.forall_mem_cons.mp h
      rw [List.map_cons, ← ih hcs, encode, List.flatMap_cons, utf8EncodeChar_of_ascii c hc]
      rfl

theorem le_of_mem_utf8EncodeChar (c : Char) (h : 0x80 ≤ c.toNat) :
    ∀ b ∈ String.utf8EncodeChar c, 0x80 ≤ b := by
  obtain ⟨b, bs, hbytes, -, hge⟩ := piece_utf8EncodeChar c []
  rw [hbytes]
  exact hge h

-- An ASCII byte of an encoded text stands for a character of its own.
theorem mem_of_mem_encode (cs : List Char) (b : UInt8) (hb : b < 0x80) (h : b ∈ encode cs) :
    Char.ofNat b.toNat ∈ cs := by
  obtain ⟨c, hc, hbc⟩ := List.mem_flatMap.mp h
  by_cases hascii : c.toNat < 0x80
  · rw [utf8EncodeChar_of_ascii c hascii, List.mem_singleton] at hbc
    rw [hbc, toNat_ofNat_of_lt _ (by omega), Char.ofNat_toNat]
    exact hc
  · exact absurd hb (UInt8.not_lt.mpr (le_of_mem_utf8EncodeChar c (by omega) b hbc))

-- Bytes can be cut apart in front of an ASCII byte without cutting a character.
theorem encode_eq_append {cs : List Char} {front back : Bytes} (h : encode cs = front ++ back)
    (hback : ∀ b ∈ back.head?, b < 0x80) :
    ∃ ds es, cs = ds ++ es ∧ encode ds = front ∧ encode es = back := by
  induction cs generalizing front with
  | nil =>
      obtain ⟨rfl, rfl⟩ := List.append_eq_nil_iff.mp h.symm
      exact ⟨[], [], rfl, rfl, rfl⟩
  | cons c cs ih =>
      cases front with
      | nil => exact ⟨[], c :: cs, rfl, rfl, h⟩
      | cons b front =>
          rw [encode, List.flatMap_cons] at h
          rcases List.append_eq_append_iff.mp h with ⟨rest, hfront, hcs⟩ | ⟨rest, hc, hrest⟩
          · obtain ⟨ds, es, rfl, hds, hes⟩ := ih hcs
            refine ⟨c :: ds, es, rfl, ?_, hes⟩
            rw [encode, List.flatMap_cons, hfront, ← hds]
            rfl
          · cases rest with
            | nil =>
                rw [List.append_nil] at hc
                refine ⟨[c], cs, rfl, ?_, hrest.symm⟩
                rw [encode, List.flatMap_singleton, hc]
            | cons a rest =>
                have ha : a < 0x80 := hback a (by rw [hrest]; rfl)
                have hmem : a ∈ String.utf8EncodeChar c := by
                  rw [hc]
                  exact List.mem_append_right _ List.mem_cons_self
                by_cases hascii : c.toNat < 0x80
                · rw [utf8EncodeChar_of_ascii c hascii] at hc
                  simp at hc
                · have hge := le_of_mem_utf8EncodeChar c (by omega) a hmem
                  exact absurd ha (by rw [UInt8.not_lt]; exact hge)

-- ASCII bytes are characters each for itself.
theorem encode_eq_ascii_append {cs : List Char} {front back : Bytes}
    (h : encode cs = front ++ back) (hfront : ∀ b ∈ front, b < 0x80) :
    ∃ es, cs = front.map (fun b => Char.ofNat b.toNat) ++ es ∧ encode es = back := by
  induction front generalizing cs with
  | nil => exact ⟨cs, rfl, h⟩
  | cons b front ih =>
      obtain ⟨hb, hrest⟩ := List.forall_mem_cons.mp hfront
      cases cs with
      | nil => cases h
      | cons c cs =>
          obtain ⟨a, as, hbytes, -, -⟩ := piece_utf8EncodeChar c []
          have hbyte : b ∈ String.utf8EncodeChar c := by
            rw [encode, List.flatMap_cons, hbytes] at h
            rw [hbytes, (List.cons.inj h).1]
            exact List.mem_cons_self
          by_cases hascii : c.toNat < 0x80
          · rw [encode, List.flatMap_cons, utf8EncodeChar_of_ascii c hascii] at h
            obtain ⟨rfl, htail⟩ := List.cons.inj h
            obtain ⟨es, rfl, hes⟩ := ih htail hrest
            refine ⟨es, ?_, hes⟩
            rw [List.map_cons, toNat_ofNat_of_lt _ (by omega), Char.ofNat_toNat]
            rfl
          · have hge := le_of_mem_utf8EncodeChar c (by omega) b hbyte
            exact absurd hb (by rw [UInt8.not_lt]; exact hge)

end StrictTransport.Text.Utf8
