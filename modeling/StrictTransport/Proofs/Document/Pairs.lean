import StrictTransport.Proofs.Document.Render

namespace StrictTransport.Document

open Text

-- The pair of a line, if it has one; what is wrong with the line does not matter.
def linePair? (limits : Limits) (line : Bytes) : Option (String × String) :=
  (readLine limits 1 line).pair?

theorem linePair?_eq_some_iff (limits : Limits) (line : Bytes) (pair : String × String) :
    linePair? limits line = some pair ↔ Carries limits line pair := by
  obtain ⟨key, value⟩ := pair
  rw [← readLine_eq_pair_iff limits 1, linePair?]
  cases readLine limits 1 line with
  | nothing => exact iff_of_false nofun nofun
  | problem p => exact iff_of_false nofun nofun
  | pair k v => simp [Reading.pair?]

theorem pair?_readLine (limits : Limits) (number : Nat) (line : Bytes) :
    (readLine limits number line).pair? = linePair? limits line := by
  refine Option.ext fun pair => ?_
  obtain ⟨key, value⟩ := pair
  rw [linePair?_eq_some_iff, ← readLine_eq_pair_iff limits number]
  cases readLine limits number line with
  | nothing => exact iff_of_false nofun nofun
  | problem p => exact iff_of_false nofun nofun
  | pair k v => simp [Reading.pair?]

-- The pairs of a body, faulty lines left out.
theorem fst_parse (limits : Limits) (body : Bytes) :
    (parse limits body).1 = (lines body).filterMap (linePair? limits) := by
  have hfrom : ∀ (ls : List Bytes) (first : Nat),
      (readingsFrom limits first ls).filterMap Reading.pair? = ls.filterMap (linePair? limits) := by
    intro ls
    induction ls with
    | nil => exact fun _ => rfl
    | cons line ls ih =>
        intro first
        rw [readingsFrom_cons, List.filterMap_cons, List.filterMap_cons, pair?_readLine, ih]
  exact hfrom (lines body) 1

theorem exists_carries_of_mem {limits : Limits} {body : Bytes} {pair : String × String}
    (h : pair ∈ (parse limits body).1) : ∃ line, Carries limits line pair := by
  rw [fst_parse, List.mem_filterMap] at h
  obtain ⟨line, -, hline⟩ := h
  exact ⟨line, (linePair?_eq_some_iff limits line pair).mp hline⟩

theorem bare_of_mem_parse {limits : Limits} {body : Bytes} {pair : String × String}
    (h : pair ∈ (parse limits body).1) : Bare pair.2 ∧ '\n' ∉ pair.2.toList := by
  obtain ⟨line, -, key, value, ⟨_, _, _, -, -, -, -, hvalue⟩, rfl⟩ := exists_carries_of_mem h
  obtain ⟨_, _, _, -, -, -, -, hform⟩ := hvalue
  exact ⟨bare_text hform, lf_notMem_text value hform.2.2⟩

-- What the lines of one pair are read as. A value may go over several lines.
def reread (limits : Limits) (pair : String × String) : List (String × String) :=
  (splitOnPair cr lf (lineBytes pair.1 pair.2)).filterMap (linePair? limits)

theorem fst_parse_document (limits : Limits) {pairs : List (String × String)} (hne : pairs ≠ []) :
    (parse limits (document pairs)).1 = pairs.flatMap (reread limits) := by
  have hlines : lines (document pairs) = splitOnPair cr lf (document pairs) := by
    obtain ⟨pair, pairs, rfl⟩ := List.exists_cons_of_ne_nil hne
    refine lines_of_hasPair ⟨lineBytes pair.1 pair.2, document pairs, ?_⟩
    rw [document_cons]
    simp
  have hpairs : ∀ pairs : List (String × String),
      (splitOnPair cr lf (document pairs)).filterMap (linePair? limits) =
        pairs.flatMap (reread limits) := by
    intro pairs
    induction pairs with
    | nil => rfl
    | cons pair pairs ih =>
        rw [document_cons, splitOnPair_append_pair cr lf (by decide), List.filterMap_append, ih]
        rfl
  rw [fst_parse, hlines, hpairs]

-- Whether the line of a pair is short enough.
def Fits (limits : Limits) (pair : String × String) : Prop :=
  ((lineBytes pair.1 pair.2).length : Int) ≤ limits.lineLength

instance (limits : Limits) (pair : String × String) : Decidable (Fits limits pair) :=
  Int.decLe _ _

theorem reread_eq_ite (limits : Limits) {key value : String} (hkey : KeyText key)
    (hvalue : Bare value) (hlf : '\n' ∉ value.toList) :
    reread limits (key, value) = if Fits limits (key, value) then [(key, value)] else [] := by
  have hread : linePair? limits (lineBytes key value) =
      if Fits limits (key, value) then some (key, value) else none := by
    refine Option.ext fun pair => ?_
    rw [linePair?_eq_some_iff, carries_lineBytes_iff limits hkey hvalue, and_iff_left hlf]
    by_cases hfits : Fits limits (key, value)
    · rw [if_pos hfits, Option.some.injEq, eq_comm]
      exact and_iff_right hfits
    · rw [if_neg hfits]
      exact iff_of_false (fun hpair => hfits hpair.1) nofun
  rw [reread, splitOnPair_eq_singleton cr lf _ (whole_of_notMem hkey (.inr hlf)),
    List.filterMap_cons, hread]
  split_ifs <;> rfl

theorem reread_of_bare (limits : Limits) {key value : String} (hkey : KeyText key)
    (hvalue : Bare value) (hlf : '\n' ∉ value.toList) :
    reread limits (key, value) = [] ∨ reread limits (key, value) = [(key, value)] := by
  rw [reread_eq_ite limits hkey hvalue hlf]
  split_ifs
  · exact .inr rfl
  · exact .inl rfl

-- The pairs whose lines are short enough.
def kept (limits : Limits) (pairs : List (String × String)) : List (String × String) :=
  pairs.filter fun pair => decide (Fits limits pair)

-- Of pairs that make a line each, those come back whose lines are not too long.
theorem fst_parse_document_eq_kept (limits : Limits) {pairs : List (String × String)}
    (hpairs : ∀ pair ∈ pairs, Told pair ∧ '\n' ∉ pair.2.toList) :
    (parse limits (document pairs)).1 = kept limits pairs := by
  cases pairs with
  | nil => rfl
  | cons pair others =>
      rw [fst_parse_document limits (List.cons_ne_nil pair others)]
      generalize pair :: others = pairs at hpairs
      induction pairs with
      | nil => rfl
      | cons pair others ih =>
          obtain ⟨⟨htold, hlf⟩, hothers⟩ := List.forall_mem_cons.mp hpairs
          rw [List.flatMap_cons, ih hothers, kept, kept, List.filter_cons,
            reread_eq_ite limits htold.key htold.value hlf]
          by_cases hfits : Fits limits (pair.1, pair.2)
          · rw [if_pos hfits, if_pos (decide_eq_true hfits)]
            rfl
          · rw [if_neg hfits, if_neg (by simpa using hfits)]
            rfl

-- Pairs that make a line each can be told from their document.
theorem document_inj {pairs others : List (String × String)}
    (hpairs : ∀ pair ∈ pairs, Told pair ∧ '\n' ∉ pair.2.toList)
    (hothers : ∀ pair ∈ others, Told pair ∧ '\n' ∉ pair.2.toList)
    (h : document pairs = document others) : pairs = others := by
  -- under a limit that no line reaches
  have hfits : ∀ (pairs : List (String × String)), ∀ pair ∈ pairs,
      (lineBytes pair.1 pair.2).length ≤ (document pairs).length := by
    intro pairs pair hpair
    obtain ⟨front, back, rfl⟩ := List.append_of_mem hpair
    simp only [document, List.flatMap_append, List.flatMap_cons, List.length_append]
    omega
  have hwide : ∀ (pairs : List (String × String)),
      (∀ pair ∈ pairs, Told pair ∧ '\n' ∉ pair.2.toList) →
      (parse { Limits.standard with lineLength := (document pairs).length } (document pairs)).1 =
        pairs := by
    intro pairs hpairs
    rw [fst_parse_document_eq_kept _ hpairs, kept, List.filter_eq_self]
    exact fun pair hpair => decide_eq_true (Int.ofNat_le.mpr (hfits pairs pair hpair))
  rw [← hwide pairs hpairs, h, hwide others hothers]

theorem linePair?_of_colon_notMem (limits : Limits) {line : Bytes} (h : colon ∉ line) :
    linePair? limits line = none := by
  refine Option.eq_none_iff_forall_not_mem.mpr fun pair hpair => ?_
  obtain ⟨-, _, _, hform, -⟩ := (linePair?_eq_some_iff limits line pair).mp hpair
  exact h hform.colon_mem

theorem linear_of_wspByte {b : UInt8} (h : isWspByte b = true ∨ b = lf) :
    b < 0x80 ∧ linear (Char.ofNat b.toNat) = true := by
  rw [isWspByte_iff] at h
  rcases h with (rfl | rfl) | rfl <;> decide

theorem rest_of_encode {rest : List Char} {behind : Bytes} (h : Utf8.encode rest = behind)
    (hbehind : behind = [] ∨ ∃ more, behind = cr :: more) :
    rest = [] ∨ ∃ more, rest = '\r' :: more := by
  rcases hbehind with rfl | ⟨more, rfl⟩
  · cases rest with
    | nil => exact .inl rfl
    | cons c rest =>
        obtain ⟨_, _, hbytes, -, -⟩ := Utf8.piece_utf8EncodeChar c []
        rw [Utf8.encode, List.flatMap_cons, hbytes] at h
        cases h
  · obtain ⟨others, rfl, -⟩ := Utf8.encode_eq_ascii_append
      (show Utf8.encode rest = [cr] ++ more from h) (List.forall_mem_singleton.mpr (by decide))
    exact .inr ⟨others, rfl⟩

-- Linear blanks behind a value are bytes of their own, and so is a carriage return.
theorem firstValue_of_encode {text : List Char} {lead value blanks behind : Bytes}
    (h : Utf8.encode text = lead ++ (value ++ (blanks ++ behind)))
    (hlead : ∀ b ∈ lead, b < 0x80 ∧ linear (Char.ofNat b.toNat) = true)
    (hblanks : ∀ b ∈ blanks, b < 0x80 ∧ linear (Char.ofNat b.toNat) = true)
    (hbehind : behind = [] ∨ ∃ more, behind = cr :: more) :
    ∃ first, FirstValue text first ∧ Utf8.encode first = value := by
  have hback : ∀ b ∈ (blanks ++ behind).head?, b < 0x80 := by
    intro b hb
    cases blanks with
    | nil =>
        rcases hbehind with rfl | ⟨more, rfl⟩
        · cases hb
        · obtain rfl : cr = b := Option.some.inj hb
          decide
    | cons c blanks =>
        obtain rfl : c = b := Option.some.inj hb
        exact (hblanks c List.mem_cons_self).1
  obtain ⟨inner, rfl, hinner⟩ := Utf8.encode_eq_ascii_append h fun b hb => (hlead b hb).1
  obtain ⟨first, outer, rfl, hfirst, houter⟩ := Utf8.encode_eq_append hinner hback
  obtain ⟨rest, rfl, hrest⟩ := Utf8.encode_eq_ascii_append houter fun b hb => (hblanks b hb).1
  exact ⟨first, ⟨_, _, rest, rfl, List.forall_mem_map.mpr fun b hb => (hlead b hb).2,
    List.forall_mem_map.mpr fun b hb => (hblanks b hb).2, rest_of_encode hrest hbehind⟩, hfirst⟩

-- The text around a value that is told behind a colon and a blank, before the line that follows.
theorem value?_encode {text : List Char} {part behind value : Bytes}
    (htext : Utf8.encode text = part ++ behind) (hvalue : value? (32 :: part) = some value)
    (hbehind : behind = [] ∨ ∃ more, behind = cr :: more) :
    ∃ first, FirstValue text first ∧ Utf8.encode first = value := by
  obtain ⟨lead, trail, ending, hpart, hlead, htrail, hending, ⟨b, hb, hblank⟩, -, -⟩ :=
    ValuePart.of_value? hvalue
  obtain ⟨tail, rfl⟩ := List.head?_eq_some_iff.mp hb
  cases lead with
  | nil =>
      rw [List.nil_append, List.cons_append] at hpart
      rw [← (List.cons.inj hpart).1] at hblank
      cases hblank
  | cons a lead =>
      rw [List.cons_append] at hpart
      obtain ⟨-, rfl⟩ := List.cons.inj hpart
      have hwhole : Utf8.encode text = lead ++ (b :: tail ++ (trail ++ ending ++ behind)) := by
        rw [htext]
        simp
      refine firstValue_of_encode hwhole
        (fun b hb => linear_of_wspByte (.inl (hlead b (List.mem_cons_of_mem a hb)))) ?_ hbehind
      intro b hb
      refine linear_of_wspByte ((List.mem_append.mp hb).imp (htrail b) fun hend => ?_)
      rcases hending with rfl | rfl
      · cases hend
      · exact List.mem_singleton.mp hend

-- The lines of a pair with a text in them: the first one has the key, the others are of the text.
theorem splitOnPair_lineBytes {key value : String} (hkey : KeyText key)
    (hplain : colon ∉ Utf8.encode value.toList) :
    ∃ part parts behind, splitOnPair cr lf (lineBytes key value) =
        (Utf8.encode key.toList ++ [colon, 32] ++ part) :: parts ∧
      Utf8.encode value.toList = part ++ behind ∧ (behind = [] ∨ ∃ more, behind = cr :: more) ∧
      ∀ line ∈ parts, colon ∉ line := by
  have hfront : cr ∉ Utf8.encode key.toList ++ [colon, 32] := by
    rw [List.mem_append, not_or]
    exact ⟨fun hmem => absurd (hkey.form.2.2 cr hmem) (by decide), by decide⟩
  obtain ⟨part, parts, hparts⟩ := List.exists_cons_of_ne_nil
    (splitOnPair_ne_nil cr lf (Utf8.encode value.toList))
  have hjoined := intercalate_splitOnPair cr lf (Utf8.encode value.toList)
  rw [hparts] at hjoined
  have hlines : splitOnPair cr lf (lineBytes key value) =
      (Utf8.encode key.toList ++ [colon, 32] ++ part) :: parts := by
    have hbody : lineBytes key value =
        (Utf8.encode key.toList ++ [colon, 32]) ++ Utf8.encode value.toList := by
      simp [lineBytes]
    rw [hbody]
    exact splitOnPair_append_of_notMem cr lf hfront hparts
  have hcolon : ∀ line ∈ parts, colon ∉ line := by
    intro line hline hmem
    refine hplain ?_
    rw [← hjoined]
    exact mem_intercalate_of_mem (List.mem_cons_of_mem _ hline) hmem
  cases parts with
  | nil => exact ⟨part, [], [], hlines, by rw [← hjoined]; simp, .inl rfl, hcolon⟩
  | cons next parts =>
      refine ⟨part, next :: parts, cr :: lf :: [cr, lf].intercalate (next :: parts), hlines, ?_,
        .inr ⟨_, rfl⟩, hcolon⟩
      rw [← hjoined, List.intercalate_cons_cons]
      simp

-- Of a value without a colon at most the first line is read, as a line that is read has a colon.
theorem reread_of_colon_notMem (limits : Limits) {key value : String} (hkey : KeyText key)
    (hcolon : ':' ∉ value.toList) :
    reread limits (key, value) = [] ∨ ∃ first, FirstValue value.toList first ∧ '\n' ∉ first ∧
      reread limits (key, value) = [(key, String.ofList first)] := by
  have hplain : colon ∉ Utf8.encode value.toList :=
    fun hmem => hcolon (Utf8.mem_of_mem_encode _ colon (by decide) hmem)
  obtain ⟨part, parts, behind, hlines, hvalue, hbehind, hothers⟩ :=
    splitOnPair_lineBytes hkey hplain
  have hrest : parts.filterMap (linePair? limits) = [] :=
    List.filterMap_eq_nil_iff.mpr fun line hline =>
      linePair?_of_colon_notMem limits (hothers line hline)
  rw [reread, hlines]
  cases hpair : linePair? limits (Utf8.encode key.toList ++ [colon, 32] ++ part) with
  | none => exact .inl (by rw [List.filterMap_cons_none hpair, hrest])
  | some pair =>
      obtain ⟨-, _, bytes, hread, rfl⟩ := (carries_iff_pair? limits _ pair).mp
        ((linePair?_eq_some_iff limits _ pair).mp hpair)
      rw [List.append_assoc, List.cons_append, pair?_lineBytes hkey,
        Option.map_eq_some_iff] at hread
      obtain ⟨_, hfound, heq⟩ := hread
      obtain ⟨rfl, rfl⟩ := Prod.mk.inj heq
      obtain ⟨first, htext, hfirst⟩ := value?_encode hvalue hfound hbehind
      refine .inr ⟨first, htext, ?_, ?_⟩
      · rw [← lf_mem_encode_iff, hfirst]
        obtain ⟨_, _, _, _, _, _, _, -, -, hlf⟩ := ValuePart.of_value? hfound
        exact hlf
      · rw [List.filterMap_cons_some hpair, hrest, hkey.same, ← hfirst, text,
          Utf8.decodeLossy_encode]

end StrictTransport.Document
