import StrictTransport.Proofs.Document.Parse

namespace StrictTransport.Document

open Text

-- A key as a document writes it: its bytes make a key, which is in lower case already.
structure KeyText (key : String) : Prop where
  form : KeyForm (Utf8.encode key.toList)
  same : keyText (Utf8.encode key.toList) = key

instance (key : Bytes) : Decidable (KeyForm key) :=
  decidable_of_iff (isKey key = true ∧ key.all isKeyByte = true) <| by
    rw [List.all_eq_true]
    exact ⟨fun h => (isKey_iff h.2).mp h.1, fun h => ⟨(isKey_iff h.2.2).mpr h, h.2.2⟩⟩

instance (key : String) : Decidable (KeyText key) :=
  decidable_of_iff (KeyForm (Utf8.encode key.toList) ∧ keyText (Utf8.encode key.toList) = key)
    ⟨fun h => ⟨h.1, h.2⟩, fun h => ⟨h.form, h.same⟩⟩

-- A text that stands behind a colon as it is: its first character is not blank and its last one
-- neither a blank nor a line feed.
structure Bare (value : String) : Prop where
  first : ∃ c ∈ value.toList.head?, isAsciiBlank c.toNat = false
  last : ∃ c ∈ value.toList.getLast?, isWsp c = false ∧ c ≠ '\n'

-- The line that tells a value, without its end.
def lineBytes (key value : String) : Bytes :=
  Utf8.encode key.toList ++ colon :: 32 :: Utf8.encode value.toList

theorem head?_encode {cs : List Char} {c : Char} (h : c ∈ cs.head?) :
    ∃ b ∈ (Utf8.encode cs).head?, b = UInt8.ofNat c.toNat ∧ c.toNat < 0x80 ∨ 0x80 ≤ b := by
  obtain ⟨rest, rfl⟩ := List.head?_eq_some_iff.mp h
  obtain ⟨b, bs, hbytes, -, hge⟩ := Utf8.piece_utf8EncodeChar c []
  have hhead : b ∈ (Utf8.encode (c :: rest)).head? := by
    rw [Utf8.encode, List.flatMap_cons, hbytes]
    rfl
  refine ⟨b, hhead, ?_⟩
  by_cases hascii : c.toNat < 0x80
  · rw [Utf8.utf8EncodeChar_of_ascii c hascii] at hbytes
    exact .inl ⟨(List.cons.inj hbytes).1.symm, hascii⟩
  · exact .inr (hge (by omega) b List.mem_cons_self)

theorem getLast?_encode {cs : List Char} {c : Char} (h : c ∈ cs.getLast?) :
    ∃ b ∈ (Utf8.encode cs).getLast?, b = UInt8.ofNat c.toNat ∧ c.toNat < 0x80 ∨ 0x80 ≤ b := by
  obtain ⟨init, rfl⟩ := List.getLast?_eq_some_iff.mp h
  have hbytes : Utf8.encode (init ++ [c]) = Utf8.encode init ++ String.utf8EncodeChar c := by
    rw [Utf8.encode_append, Utf8.encode, Utf8.encode, List.flatMap_singleton]
  obtain ⟨b, bs, hchar, -, hge⟩ := Utf8.piece_utf8EncodeChar c []
  have hne : String.utf8EncodeChar c ≠ [] := by
    rw [hchar]
    exact List.cons_ne_nil _ _
  refine ⟨(String.utf8EncodeChar c).getLast hne, ?_, ?_⟩
  · rw [hbytes, List.getLast?_append_of_ne_nil _ hne, List.getLast?_eq_some_getLast hne]
    rfl
  · by_cases hascii : c.toNat < 0x80
    · refine .inl ⟨?_, hascii⟩
      simp only [Utf8.utf8EncodeChar_of_ascii c hascii, List.getLast_singleton]
    · exact .inr (Utf8.le_of_mem_utf8EncodeChar c (by omega) _ (List.getLast_mem hne))

theorem isBlankByte_of_le {b : UInt8} (h : 0x80 ≤ b) : isBlankByte b = false := by
  have hb : 128 ≤ b.toNat := UInt8.le_iff_toNat_le.mp h
  rw [isBlankByte, isAsciiBlank, Bool.or_eq_false_iff, Bool.and_eq_false_iff,
    decide_eq_false_iff_not, decide_eq_false_iff_not, beq_eq_false_iff_ne]
  omega

theorem Bare.head? {value : String} (h : Bare value) :
    ∃ b ∈ (Utf8.encode value.toList).head?, isBlankByte b = false := by
  obtain ⟨c, hc, hblank⟩ := h.first
  obtain ⟨b, hb, ⟨rfl, hascii⟩ | hhigh⟩ := head?_encode hc
  · refine ⟨_, hb, ?_⟩
    rw [isBlankByte, Utf8.toNat_ofNat_of_lt _ (by omega)]
    exact hblank
  · exact ⟨b, hb, isBlankByte_of_le hhigh⟩

theorem Bare.getLast? {value : String} (h : Bare value) :
    ∃ b ∈ (Utf8.encode value.toList).getLast?, isWspByte b = false ∧ b ≠ lf := by
  obtain ⟨c, hc, hwsp, hlf⟩ := h.last
  obtain ⟨b, hb, ⟨rfl, hascii⟩ | hhigh⟩ := getLast?_encode hc
  · have hcode : ∀ n < 0x80, UInt8.ofNat c.toNat = UInt8.ofNat n → c = Char.ofNat n := by
      intro n hn heq
      have hnat := congrArg UInt8.toNat heq
      rw [Utf8.toNat_ofNat_of_lt _ (by omega), Utf8.toNat_ofNat_of_lt _ (by omega)] at hnat
      rw [← hnat, Char.ofNat_toNat]
    refine ⟨_, hb, ?_, fun heq => hlf (hcode 10 (by decide) heq)⟩
    rw [← Bool.not_eq_true, isWspByte_iff]
    rintro (heq | heq)
    · rw [hcode 32 (by decide) heq] at hwsp
      exact absurd hwsp (by decide)
    · rw [hcode 9 (by decide) heq] at hwsp
      exact absurd hwsp (by decide)
  · refine ⟨b, hb, isWspByte_of_isBlankByte_eq_false b (isBlankByte_of_le hhigh), ?_⟩
    rintro rfl
    exact absurd hhigh (by decide)

-- What was read from a line is bare, whatever its bytes were.
theorem bare_text {value : Bytes} (h : ValueForm value) : Bare (text value) := by
  obtain ⟨⟨b, hb, hblank⟩, ⟨e, he, hwsp⟩, hlf⟩ := h
  obtain ⟨rest, rfl⟩ := List.head?_eq_some_iff.mp hb
  have hne : Utf8.decodeLossy (b :: rest) ≠ [] :=
    fun hnil => List.cons_ne_nil b rest ((Utf8.decodeLossy_eq_nil_iff _).mp hnil)
  constructor
  · obtain ⟨c, cs, hcs⟩ := List.exists_cons_of_ne_nil hne
    refine ⟨c, by rw [text, String.toList_ofList, hcs]; rfl, ?_⟩
    by_cases hascii : c.toNat < 0x80
    · obtain ⟨_, hbytes, -⟩ := Utf8.decodeLossy_eq_cons_of_ascii _ c cs hcs hascii
      rw [(List.cons.inj hbytes).1, isBlankByte, Utf8.toNat_ofNat_of_lt _ (by omega)] at hblank
      exact hblank
    · rw [isAsciiBlank, Bool.or_eq_false_iff, Bool.and_eq_false_iff, decide_eq_false_iff_not,
        decide_eq_false_iff_not, beq_eq_false_iff_ne]
      omega
  · have hlast := List.getLast?_eq_some_getLast hne
    generalize (Utf8.decodeLossy (b :: rest)).getLast hne = c at hlast
    refine ⟨c, by rw [text, String.toList_ofList]; exact hlast, ?_, ?_⟩
    · rw [← Bool.not_eq_true, isWsp, Bool.or_eq_true, beq_iff_eq, beq_iff_eq]
      rintro (rfl | rfl)
      · rw [Utf8.getLast?_of_getLast?_decodeLossy _ _ (by decide) hlast] at he
        obtain rfl := Option.some.inj he
        exact absurd hwsp (by decide)
      · rw [Utf8.getLast?_of_getLast?_decodeLossy _ _ (by decide) hlast] at he
        obtain rfl := Option.some.inj he
        exact absurd hwsp (by decide)
    · rintro rfl
      exact hlf (List.mem_of_getLast? (Utf8.getLast?_of_getLast?_decodeLossy _ _ (by decide) hlast))

theorem bare_of_ends {text : String} {a b : Char} (ha : a ∈ text.toList.head?)
    (hfirst : isBlank a = false) (hb : b ∈ text.toList.getLast?) (hlast : isBlank b = false) :
    Bare text := by
  refine ⟨⟨a, ha, isAsciiBlank_of_isBlank hfirst⟩, b, hb, ?_, ?_⟩
  · rw [← Bool.not_eq_true]
    intro hwsp
    rw [isBlank_of_isWsp hwsp] at hlast
    cases hlast
  · rintro rfl
    exact absurd hlast (by decide)

theorem lf_mem_encode_iff (cs : List Char) : lf ∈ Utf8.encode cs ↔ '\n' ∈ cs := by
  constructor
  · exact fun h => Utf8.mem_of_mem_encode cs lf (by decide) h
  · intro h
    rw [Utf8.encode, List.mem_flatMap]
    exact ⟨'\n', h, by rw [Utf8.utf8EncodeChar_of_ascii _ (by decide)]; exact List.mem_cons_self⟩

theorem value?_bare {value : String} (h : Bare value) :
    value? (32 :: Utf8.encode value.toList) =
      if '\n' ∈ value.toList then none else some (Utf8.encode value.toList) := by
  obtain ⟨b, hb, hblank⟩ := h.head?
  obtain ⟨e, he, hwsp, hlf⟩ := h.getLast?
  simp only [← lf_mem_encode_iff]
  generalize Utf8.encode value.toList = bytes at hb he ⊢
  have hdrop : (32 :: bytes).dropWhile isWspByte = bytes := by
    have hbytes := dropWhile_append_of_head isWspByte b bytes [] hb
      (isWspByte_of_isBlankByte_eq_false b hblank)
    rw [List.append_nil] at hbytes
    rw [List.dropWhile_cons_of_pos (by decide), hbytes]
  have hfeed : withoutLineFeed bytes = bytes := by
    have hline := withoutLineFeed_append bytes [] (fun a ha => ?_) (.inl rfl)
    · rwa [List.append_nil] at hline
    · rw [Option.mem_def.mp he, Option.mem_def, Option.some.injEq] at ha
      exact ha ▸ hlf
  have hhead : bytes.head?.any (fun b => !isBlankByte b) = true := by
    rw [Option.mem_def.mp hb, Option.any_some, hblank]
    rfl
  have htrim : dropEndWhile isWspByte bytes = bytes := by
    have hend := dropEndWhile_append_of_last isWspByte e bytes [] he hwsp (by simp)
    rwa [List.append_nil] at hend
  simp only [value?, hdrop, hfeed, hhead, htrim, Bool.true_and]
  by_cases hmem : lf ∈ bytes
  · rw [if_neg (by simpa using hmem), if_pos hmem]
  · rw [if_pos (by simpa using hmem), if_neg hmem]

theorem pair?_lineBytes {key : String} (hkey : KeyText key) (rest : Bytes) :
    pair? (Utf8.encode key.toList ++ colon :: rest) =
      (value? rest).map fun value => (Utf8.encode key.toList, value) :=
  pair?_key_colon (show AllWsp [] by simp [AllWsp]) hkey.form (show AllWsp [] by simp [AllWsp]) rest

theorem carries_iff_pair? (limits : Limits) (line : Bytes) (pair : String × String) :
    Carries limits line pair ↔ (line.length : Int) ≤ limits.lineLength ∧
      ∃ key value, pair? line = some (key, value) ∧ pair = (keyText key, text value) := by
  simp only [Carries, pair?_eq_some_iff]

-- A rendered line is read back unless it is too long or has grown a second line.
theorem carries_lineBytes_iff (limits : Limits) {key value : String} (hkey : KeyText key)
    (hvalue : Bare value) (pair : String × String) :
    Carries limits (lineBytes key value) pair ↔
      (((lineBytes key value).length : Int) ≤ limits.lineLength ∧ '\n' ∉ value.toList) ∧
        pair = (key, value) := by
  have htext : text (Utf8.encode value.toList) = value := by
    rw [text, Utf8.decodeLossy_encode, String.ofList_toList]
  rw [carries_iff_pair?, lineBytes, pair?_lineBytes hkey, value?_bare hvalue, and_assoc]
  refine and_congr_right fun _ => ?_
  by_cases hlf : '\n' ∈ value.toList
  · simp [hlf]
  · simp [hlf, hkey.same, htext]

theorem colon_mem_lineBytes (key value : String) : colon ∈ lineBytes key value :=
  List.mem_append_right _ List.mem_cons_self

theorem lines_of_hasPair {body : Bytes} (h : [cr, lf] <:+: body) :
    lines body = splitOnPair cr lf body := by
  rw [lines, if_pos ((hasPair_iff cr lf body).mpr h)]

-- A line in front of a body that ends its lines in CR LF is read, and then the body.
theorem parse_lineBytes_append (limits : Limits) {key value : String} (hkey : KeyText key)
    (hvalue : Bare value) (hwhole : ¬[cr, lf] <:+: lineBytes key value) {rest : Bytes}
    (hrest : lines rest = splitOnPair cr lf rest) (found : List (String × String)) :
    parse limits (lineBytes key value ++ cr :: lf :: rest) = (found, .empty) ↔
      (((lineBytes key value).length : Int) ≤ limits.lineLength ∧ '\n' ∉ value.toList) ∧
        ∃ more, parse limits rest = (more, .empty) ∧ found = (key, value) :: more := by
  have hlines : lines (lineBytes key value ++ cr :: lf :: rest) =
      lineBytes key value :: lines rest := by
    rw [lines_of_hasPair ⟨lineBytes key value, rest, by simp⟩, hrest,
      splitOnPair_append cr lf (by decide) _ rest hwhole]
  simp only [parse_eq_iff]
  rw [hlines, visible_cons, not_all_blank_of_colon (colon_mem_lineBytes key value),
    if_neg Bool.false_ne_true, List.forall₂_cons_left_iff]
  simp only [carries_lineBytes_iff limits hkey hvalue]
  constructor
  · rintro ⟨pair, more, ⟨hfits, rfl⟩, hmore, rfl⟩
    exact ⟨hfits, more, hmore, rfl⟩
  · rintro ⟨hfits, more, hmore, rfl⟩
    exact ⟨_, more, ⟨hfits, rfl⟩, hmore, rfl⟩

theorem whole_of_notMem {key value : String} (hkey : KeyText key)
    (h : '\r' ∉ value.toList ∨ '\n' ∉ value.toList) : ¬[cr, lf] <:+: lineBytes key value := by
  intro hends
  have hmem : ∀ b ∈ [cr, lf], b ∈ lineBytes key value → Char.ofNat b.toNat ∈ value.toList := by
    intro b hb hline
    have hcode : b < 0x80 ∧ isKeyByte b = false ∧ b ≠ colon ∧ b ≠ 32 := by
      rcases List.mem_pair.mp hb with rfl | rfl <;> decide
    rw [lineBytes, List.mem_append, List.mem_cons, List.mem_cons] at hline
    rcases hline with hk | hc | hs | hv
    · rw [hkey.form.2.2 b hk] at hcode
      exact absurd hcode.2.1 (by decide)
    · exact absurd hc hcode.2.2.1
    · exact absurd hs hcode.2.2.2
    · exact Utf8.mem_of_mem_encode _ b hcode.1 hv
  rcases h with hcr | hlf
  · exact hcr (hmem cr (by simp) (hends.subset (by simp)))
  · exact hlf (hmem lf (by simp) (hends.subset (by simp)))

-- The document of pairs, a line for each.
def document (pairs : List (String × String)) : Bytes :=
  pairs.flatMap fun pair => lineBytes pair.1 pair.2 ++ [cr, lf]

theorem document_cons (pair : String × String) (pairs : List (String × String)) :
    document (pair :: pairs) = lineBytes pair.1 pair.2 ++ cr :: lf :: document pairs := by
  rw [document, List.flatMap_cons, List.append_assoc]
  rfl

-- A pair that can be rendered as one line.
structure Told (pair : String × String) : Prop where
  key : KeyText pair.1
  value : Bare pair.2
  whole : ¬[cr, lf] <:+: lineBytes pair.1 pair.2

theorem lines_document_append {pairs : List (String × String)} {rest : Bytes}
    (hrest : lines rest = splitOnPair cr lf rest) :
    lines (document pairs ++ rest) = splitOnPair cr lf (document pairs ++ rest) := by
  cases pairs with
  | nil => exact hrest
  | cons pair pairs =>
      refine lines_of_hasPair ⟨lineBytes pair.1 pair.2, document pairs ++ rest, ?_⟩
      rw [document_cons]
      simp

theorem parse_document_append (limits : Limits) {pairs : List (String × String)}
    (hpairs : ∀ pair ∈ pairs, Told pair) {rest : Bytes}
    (hrest : lines rest = splitOnPair cr lf rest) (found : List (String × String)) :
    parse limits (document pairs ++ rest) = (found, .empty) ↔
      (∀ pair ∈ pairs, ((lineBytes pair.1 pair.2).length : Int) ≤ limits.lineLength ∧
        '\n' ∉ pair.2.toList) ∧
        ∃ more, parse limits rest = (more, .empty) ∧ found = pairs ++ more := by
  induction pairs generalizing found with
  | nil => simp [document]
  | cons pair pairs ih =>
      have hpair := hpairs pair List.mem_cons_self
      have htail := fun found =>
        ih (fun other hother => hpairs other (List.mem_cons_of_mem _ hother)) found
      have hbody : document (pair :: pairs) ++ rest =
          lineBytes pair.1 pair.2 ++ cr :: lf :: (document pairs ++ rest) := by
        rw [document_cons, List.append_assoc]
        rfl
      rw [hbody, parse_lineBytes_append limits hpair.key hpair.value hpair.whole
        (lines_document_append hrest)]
      simp only [htail, List.forall_mem_cons]
      constructor
      · rintro ⟨hfits, _, ⟨hall, more, hmore, rfl⟩, rfl⟩
        exact ⟨⟨hfits, hall⟩, more, hmore, rfl⟩
      · rintro ⟨⟨hfits, hall⟩, more, hmore, rfl⟩
        exact ⟨hfits, pairs ++ more, ⟨hall, more, hmore, rfl⟩, rfl⟩

theorem parse_nil (limits : Limits) (found : List (String × String)) :
    parse limits [] = (found, .empty) ↔ found = [] := by
  have hnil : parse limits [] = ([], .empty) := rfl
  rw [hnil, Prod.mk.injEq, and_iff_left rfl, eq_comm]

-- A document of whole lines is read back unless one of them is too long.
theorem parse_document_iff (limits : Limits) {pairs : List (String × String)}
    (hpairs : ∀ pair ∈ pairs, Told pair ∧ '\n' ∉ pair.2.toList) (found : List (String × String)) :
    parse limits (document pairs) = (found, .empty) ↔
      (∀ pair ∈ pairs, ((lineBytes pair.1 pair.2).length : Int) ≤ limits.lineLength) ∧
        found = pairs := by
  have hparse := parse_document_append limits (fun pair hpair => (hpairs pair hpair).1)
    (show lines [] = splitOnPair cr lf [] by decide) found
  rw [List.append_nil] at hparse
  rw [hparse]
  simp only [parse_nil, exists_eq_left, List.append_nil]
  refine and_congr_left fun _ => forall₂_congr fun pair hpair => ?_
  rw [and_iff_left (hpairs pair hpair).2]

-- A value may go over several lines. If it has no colon, only the first of them holds a pair.
theorem parse_lineBytes_of_colon_notMem {limits : Limits} {key value : String}
    (hkey : KeyText key) (hcolon : ':' ∉ value.toList) {found : List (String × String)}
    (h : parse limits (lineBytes key value ++ [cr, lf]) = (found, .empty)) :
    ∃ first, found = [(key, first)] := by
  have hbody : lineBytes key value ++ [cr, lf] =
      (Utf8.encode key.toList ++ [colon, 32]) ++ (Utf8.encode value.toList ++ [cr, lf]) := by
    simp [lineBytes]
  have hfront : cr ∉ Utf8.encode key.toList ++ [colon, 32] := by
    rw [List.mem_append, not_or]
    exact ⟨fun hmem => absurd (hkey.form.2.2 cr hmem) (by decide), by decide⟩
  have hplain : colon ∉ Utf8.encode value.toList ++ [cr, lf] := by
    rw [List.mem_append, not_or]
    exact ⟨fun hmem => hcolon (Utf8.mem_of_mem_encode _ colon (by decide) hmem), by decide⟩
  obtain ⟨part, parts, hparts⟩ := List.exists_cons_of_ne_nil
    (splitOnPair_ne_nil cr lf (Utf8.encode value.toList ++ [cr, lf]))
  have hlines : lines (lineBytes key value ++ [cr, lf]) =
      (Utf8.encode key.toList ++ [colon, 32] ++ part) :: parts := by
    rw [lines_of_hasPair ⟨lineBytes key value, [], by simp⟩, hbody]
    exact splitOnPair_append_of_notMem cr lf hfront hparts
  rw [parse_eq_iff, hlines, visible_cons, if_neg, List.forall₂_cons_left_iff] at h
  · obtain ⟨pair, rest, hpair, hrest, rfl⟩ := h
    obtain ⟨-, _, first, hread, rfl⟩ := (carries_iff_pair? limits _ pair).mp hpair
    rw [List.append_assoc, List.cons_append, pair?_lineBytes hkey, Option.map_eq_some_iff] at hread
    obtain ⟨_, -, heq⟩ := hread
    obtain ⟨rfl, -⟩ := Prod.mk.inj heq
    refine ⟨text first, ?_⟩
    rw [hkey.same]
    -- another line that is read would have a colon, and the value has none
    cases hrest' : visible parts with
    | nil =>
        rw [hrest', List.forall₂_nil_left_iff] at hrest
        rw [hrest]
    | cons line more =>
        rw [hrest', List.forall₂_cons_left_iff] at hrest
        obtain ⟨_, _, ⟨-, _, _, hform, -⟩, -, -⟩ := hrest
        have hline : line ∈ parts := (List.mem_filter.mp (hrest' ▸ List.mem_cons_self)).1
        refine absurd ?_ hplain
        rw [← intercalate_splitOnPair cr lf (Utf8.encode value.toList ++ [cr, lf]), hparts]
        exact mem_intercalate_of_mem (List.mem_cons_of_mem _ hline) hform.colon_mem
  · rw [not_all_blank_of_colon (by simp)]
    exact Bool.false_ne_true

end StrictTransport.Document
