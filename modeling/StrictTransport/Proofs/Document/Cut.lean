import StrictTransport.Proofs.Document.LineEnd

namespace StrictTransport.Document

open Text

-- The end that tells the lines of a body apart.
def endOf (body : Bytes) : LineEnd :=
  if hasPair cr lf body then .full else .bare

-- A body cut behind some whole lines and within the next one. What is left of that one is a
-- beginning, or all of it and the CR of its end.
structure CutIn (body : Bytes) (size : Nat) (whole : List Bytes) (line left : Bytes)
    (rest : List Bytes) : Prop where
  lines : lines body = whole ++ line :: rest
  cut : body.take size = whole.flatMap (· ++ (endOf body).bytes) ++ left
  piece : left <+: line ∨ endOf body = .full ∧ left = line ++ [cr]

-- The lines that what is left of a line makes. Without a whole line before it, the end that tells
-- lines apart may be another one than in the body.
def pieces (whole : List Bytes) (left : Bytes) : List Bytes :=
  if whole = [] then lines left else [left]

section Parts

variable {α : Type}

theorem take_intercalate {sep : List α} (hsep : sep ≠ []) {parts : List (List α)}
    (hparts : parts ≠ []) (size : Nat) :
    ∃ whole part left rest, parts = whole ++ part :: rest ∧
      (sep.intercalate parts).take size = whole.flatMap (· ++ sep) ++ left ∧
      left <+: part ++ sep ∧ left ≠ part ++ sep := by
  induction parts generalizing size with
  | nil => exact absurd rfl hparts
  | cons part parts ih =>
      have hshort : ∀ {left : List α}, left.length < (part ++ sep).length → left ≠ part ++ sep :=
        fun hlt heq => absurd (congrArg List.length heq) (by omega)
      cases parts with
      | nil =>
          refine ⟨[], part, part.take size, [], rfl, by rw [List.intercalate_singleton]; rfl,
            (List.take_prefix size part).trans (List.prefix_append part sep), hshort ?_⟩
          have hpos := List.length_pos_iff.mpr hsep
          rw [List.length_take, List.length_append]
          omega
      | cons next parts =>
          rw [List.intercalate_cons_cons]
          by_cases hsize : size < (part ++ sep).length
          · refine ⟨[], part, (part ++ sep).take size, next :: parts, rfl, ?_,
              List.take_prefix size _, hshort ?_⟩
            · rw [List.take_append_of_le_length (by omega)]
              rfl
            · rw [List.length_take]
              omega
          · obtain ⟨whole, other, left, rest, hsplit, hcut, hleft⟩ :=
              ih (List.cons_ne_nil next parts) (size - (part ++ sep).length)
            refine ⟨part :: whole, other, left, rest, by rw [hsplit]; rfl, ?_, hleft⟩
            rw [List.take_append, hcut, List.take_of_length_le (by omega), List.flatMap_cons,
              List.append_assoc (part ++ sep)]

end Parts

theorem endOf_eq_full_iff (body : Bytes) : endOf body = .full ↔ [cr, lf] <:+: body := by
  rw [← hasPair_iff, endOf]
  cases hasPair cr lf body with
  | true => exact iff_of_true rfl rfl
  | false => exact iff_of_false nofun nofun

theorem endOf_eq_bare_iff (body : Bytes) : endOf body = .bare ↔ ¬[cr, lf] <:+: body := by
  rw [← endOf_eq_full_iff]
  cases endOf body with
  | bare => exact iff_of_true rfl nofun
  | full => exact iff_of_false nofun fun h => h rfl

theorem areLines_iff_endOf (body : Bytes) (ls : List Bytes) :
    AreLines body ls ↔ ls ≠ [] ∧ (endOf body).bytes.intercalate ls = body ∧
      ∀ line ∈ ls, ¬(endOf body).bytes <:+: line := by
  rw [AreLines]
  cases hend : endOf body with
  | full =>
      rw [if_pos ((endOf_eq_full_iff body).mp hend)]
      rfl
  | bare =>
      rw [if_neg ((endOf_eq_bare_iff body).mp hend)]
      simp only [LineEnd.bytes, List.singleton_infix_iff]

theorem LineEnd.bytes_ne_nil (e : LineEnd) : e.bytes ≠ [] := by
  cases e with
  | bare => exact List.cons_ne_nil _ _
  | full => exact List.cons_ne_nil _ _

theorem prefix_of_prefix_concat {line left : Bytes} {b : UInt8} (h : left <+: line ++ [b])
    (hne : left ≠ line ++ [b]) : left <+: line :=
  (List.prefix_concat_iff.mp h).resolve_left hne

theorem exists_cutIn (body : Bytes) (size : Nat) :
    ∃ whole line left rest, CutIn body size whole line left rest := by
  obtain ⟨hne, hbody, -⟩ := (areLines_iff_endOf body _).mp ((areLines_iff body _).mpr rfl)
  obtain ⟨whole, line, left, rest, hlines, hcut, hpiece, hshort⟩ :=
    take_intercalate (endOf body).bytes_ne_nil hne size
  rw [hbody] at hcut
  refine ⟨whole, line, left, rest, hlines, hcut, ?_⟩
  cases hend : endOf body with
  | bare =>
      rw [hend] at hpiece hshort
      exact .inl (prefix_of_prefix_concat hpiece hshort)
  | full =>
      have hend' : (endOf body).bytes = [cr] ++ [lf] := by rw [hend]; rfl
      rw [hend', ← List.append_assoc] at hpiece hshort
      rcases List.prefix_concat_iff.mp (prefix_of_prefix_concat hpiece hshort) with hall | hpart
      · exact .inr ⟨rfl, hall⟩
      · exact .inl hpart

section CutIn

variable {body line left : Bytes} {size : Nat} {whole rest : List Bytes}

theorem CutIn.no_end (h : CutIn body size whole line left rest) :
    (∀ other ∈ whole, ¬(endOf body).bytes <:+: other) ∧ ¬(endOf body).bytes <:+: left := by
  obtain ⟨-, -, hlines⟩ := (areLines_iff_endOf body _).mp ((areLines_iff body _).mpr rfl)
  rw [h.lines] at hlines
  refine ⟨fun other hother => hlines other (List.mem_append_left _ hother), fun hend => ?_⟩
  have hline := hlines line (List.mem_append_right _ List.mem_cons_self)
  rcases h.piece with hprefix | ⟨hfull, rfl⟩
  · exact hline (hend.trans hprefix.isInfix)
  · -- the CR behind the line is not followed by an LF
    rw [hfull] at hend hline
    rcases List.infix_concat_iff.mp hend with hsuffix | hinfix
    · obtain ⟨front, hfront⟩ := hsuffix
      have hlast := congrArg List.getLast? hfront
      simp [LineEnd.bytes] at hlast
      exact absurd hlast (by decide)
    · exact hline hinfix

-- The lines before the cut stay as they are.
theorem CutIn.lines_take (h : CutIn body size whole line left rest) :
    Document.lines (body.take size) = whole ++ pieces whole left := by
  obtain ⟨hwhole, hleft⟩ := h.no_end
  by_cases hnil : whole = []
  · subst hnil
    rw [h.cut]
    rfl
  · have hend : endOf (body.take size) = endOf body := by
      cases hbody : endOf body with
      | full =>
          obtain ⟨first, others, rfl⟩ := List.exists_cons_of_ne_nil hnil
          rw [endOf_eq_full_iff, h.cut, hbody]
          exact ⟨first, others.flatMap (· ++ [cr, lf]) ++ left, by simp [LineEnd.bytes]⟩
      | bare =>
          rw [endOf_eq_bare_iff] at hbody ⊢
          exact fun hpair => hbody (hpair.trans (List.take_prefix size body).isInfix)
    refine ((areLines_iff _ _).mp ((areLines_iff_endOf _ _).mpr ?_)).symm
    rw [pieces, if_neg hnil, hend, intercalate_append_singleton, h.cut]
    refine ⟨by simp, rfl, fun other hother => ?_⟩
    rcases List.mem_append.mp hother with hmem | hlast
    · exact hwhole other hmem
    · rw [List.mem_singleton.mp hlast]
      exact hleft

end CutIn

section Pairs

variable {limits : Limits} {line left key value : Bytes}

-- More bytes behind a value make it longer or leave it as it is.
theorem ValuePart.prefix_of_append {bytes more short long : Bytes} (h : ValuePart bytes short)
    (hmore : ValuePart (bytes ++ more) long) : short <+: long := by
  obtain ⟨lead, trail, ending, rfl, hlead, -, -, ⟨b, hb, hblank⟩, ⟨e, he, hwsp⟩, hlf⟩ := h
  obtain ⟨lead', trail', ending', hform, hlead', htrail', hending', ⟨b', hb', hblank'⟩, -, -⟩ := hmore
  have hsame : short ++ (trail ++ ending ++ more) = long ++ (trail' ++ ending') := by
    have hdrop := congrArg (List.dropWhile isWspByte) hform
    rw [List.append_assoc, hlead.dropWhile_append, hlead'.dropWhile_append, List.append_assoc,
      dropWhile_append_of_head isWspByte b short _ hb
        (isWspByte_of_isBlankByte_eq_false b hblank),
      dropWhile_append_of_head isWspByte b' long _ hb'
        (isWspByte_of_isBlankByte_eq_false b' hblank')] at hdrop
    exact hdrop
  rcases List.append_eq_append_iff.mp hsame with ⟨more', rfl, -⟩ | ⟨tail, rfl, htail⟩
  · exact List.prefix_append short more'
  · -- the shorter value would end in what stands behind the longer one
    cases tail using List.reverseRecOn with
    | nil => rw [List.append_nil]
    | append_singleton tail c =>
        obtain rfl : c = e := by simpa using he
        have hmem : c ∈ trail' ++ ending' := by
          rw [htail]
          simp
        rcases List.mem_append.mp hmem with hblanks | hend
        · rw [htrail' c hblanks] at hwsp
          cases hwsp
        · rcases hending' with rfl | rfl
          · cases hend
          · rw [List.mem_singleton.mp hend] at hlf
            simp at hlf

-- More bytes behind a line with a pair leave its key as it is.
theorem PairForm.of_append {more key' value' : Bytes} (h : PairForm left key value)
    (hmore : PairForm (left ++ more) key' value') : key = key' ∧ value <+: value' := by
  obtain ⟨before, gap, rest, rfl, hbefore, hgap, hkey, hvalue⟩ := h
  have hpair := pair?_of_pairForm hmore
  have hwhole : before ++ (key ++ (gap ++ colon :: rest)) ++ more =
      before ++ (key ++ (gap ++ colon :: (rest ++ more))) := by
    simp
  rw [hwhole, pair?_key_colon hbefore hkey hgap, Option.map_eq_some_iff] at hpair
  obtain ⟨_, hfound, heq⟩ := hpair
  obtain ⟨rfl, rfl⟩ := Prod.mk.inj heq
  exact ⟨rfl, hvalue.prefix_of_append (ValuePart.of_value? hfound)⟩

theorem linePair?_eq_none_or (limits : Limits) (line : Bytes) :
    linePair? limits line = none ∨ ∃ key value, PairForm line key value ∧
      linePair? limits line = some (keyText key, text value) := by
  cases hpair : linePair? limits line with
  | none => exact .inl rfl
  | some pair =>
      obtain ⟨-, key, value, hform, rfl⟩ := (linePair?_eq_some_iff limits line pair).mp hpair
      exact .inr ⟨key, value, hform, rfl⟩

theorem lines_of_lf_notMem (h : lf ∉ line) : lines line = [line] := by
  refine ((areLines_iff line [line]).mp ⟨List.cons_ne_nil line [], ?_⟩).symm
  rw [if_neg fun hpair => h (hpair.subset (List.mem_cons_of_mem cr List.mem_cons_self))]
  exact ⟨List.intercalate_singleton, List.forall_mem_singleton.mpr h⟩

theorem lines_append_lf {front back : Bytes} (hfront : lf ∉ front) (hback : lf ∉ back)
    (hpair : ¬[cr, lf] <:+: front ++ lf :: back) :
    lines (front ++ lf :: back) = [front, back] := by
  refine ((areLines_iff _ [front, back]).mp ⟨List.cons_ne_nil front _, ?_⟩).symm
  rw [if_neg hpair]
  refine ⟨by simp [List.intercalate_cons_cons], ?_⟩
  simp only [List.forall_mem_cons, hfront, hback, not_false_eq_true, List.not_mem_nil,
    false_imp_iff, implies_true, and_self]

end Pairs

section Pieces

variable {limits : Limits} {body line left key value : Bytes} {size : Nat}
  {whole rest : List Bytes}

theorem CutIn.no_pair (h : CutIn body size whole line left rest) : ¬[cr, lf] <:+: left := by
  have hend := h.no_end.2
  cases hbody : endOf body with
  | full =>
      rw [hbody] at hend
      exact hend
  | bare =>
      rw [hbody, LineEnd.bytes, List.singleton_infix_iff] at hend
      exact fun hpair => hend (hpair.subset (List.mem_cons_of_mem cr List.mem_cons_self))

-- A line with a pair has an LF at its very end only.
theorem CutIn.of_lf {front back : Bytes} (h : CutIn body size whole line (front ++ lf :: back) rest)
    (hform : PairForm line key value) :
    PairForm front key value ∧ (back = [] ∨ back = [cr]) := by
  rcases h.piece with ⟨more, rfl⟩ | ⟨-, hall⟩
  · rw [List.append_assoc, List.cons_append] at hform
    obtain ⟨hrest, hshort⟩ := hform.of_append_lf
    exact ⟨hshort, .inl (List.append_eq_nil_iff.mp hrest).1⟩
  · cases back using List.reverseRecOn with
    | nil =>
        obtain ⟨-, hlast⟩ := List.append_inj' hall rfl
        exact absurd (List.cons.inj hlast).1 (by decide)
    | append_singleton back b =>
        rw [← List.cons_append, ← List.append_assoc] at hall
        obtain ⟨rfl, hb⟩ := List.append_inj' hall rfl
        obtain ⟨rfl, hshort⟩ := hform.of_append_lf
        exact ⟨hshort, .inr hb⟩

-- So a cut does not make two lines with a pair out of it.
theorem CutIn.pieces_eq (h : CutIn body size whole line left rest)
    (hform : PairForm line key value) :
    pieces whole left = [left] ∨ ∃ front back, pieces whole left = [front, back] ∧
      PairForm front key value ∧ colon ∉ back := by
  by_cases hnil : whole = []
  · rw [pieces, if_pos hnil]
    by_cases hmem : lf ∈ left
    · obtain ⟨front, back, rfl, hfront⟩ := List.eq_append_cons_of_mem hmem
      obtain ⟨hshort, hback⟩ := h.of_lf hform
      have hplain : lf ∉ back ∧ colon ∉ back := by
        rcases hback with rfl | rfl <;> decide
      exact .inr ⟨front, back, lines_append_lf hfront hplain.1 h.no_pair, hshort, hplain.2⟩
    · exact .inl (lines_of_lf_notMem hmem)
  · exact .inl (if_neg hnil)

-- What is left of a line with a pair has the same key, and of the value a beginning. Only a cut
-- between CR and LF makes the value longer.
theorem CutIn.pairs_of_pair (h : CutIn body size whole line left rest)
    (hform : PairForm line key value) :
    (pieces whole left).filterMap (linePair? limits) = [] ∨
      ∃ found, (pieces whole left).filterMap (linePair? limits) = [(keyText key, text found)] ∧
        (found <+: value ∨ left = line ++ [cr] ∧ value <+: found) := by
  rcases h.pieces_eq hform with hpieces | ⟨front, back, hpieces, hfront, hback⟩
  · rw [hpieces]
    rcases linePair?_eq_none_or limits left with hnone | ⟨key', found, hleft, hpair⟩
    · exact .inl (by rw [List.filterMap_cons_none hnone, List.filterMap_nil])
    · rw [List.filterMap_cons_some hpair, List.filterMap_nil]
      rcases h.piece with ⟨more, rfl⟩ | ⟨-, rfl⟩
      · obtain ⟨rfl, hvalue⟩ := hleft.of_append hform
        exact .inr ⟨found, rfl, .inl hvalue⟩
      · obtain ⟨rfl, hvalue⟩ := hform.of_append hleft
        exact .inr ⟨found, rfl, .inr ⟨rfl, hvalue⟩⟩
  · rw [hpieces, ← List.singleton_append, List.filterMap_append,
      List.filterMap_cons_none (linePair?_of_colon_notMem limits hback), List.filterMap_nil,
      List.append_nil]
    rcases linePair?_eq_none_or limits front with hnone | ⟨key', found, hread, hpair⟩
    · exact .inl (by rw [List.filterMap_cons_none hnone, List.filterMap_nil])
    · have hsame := pair?_of_pairForm hread
      rw [pair?_of_pairForm hfront] at hsame
      obtain ⟨rfl, rfl⟩ := Prod.mk.inj (Option.some.inj hsame)
      exact .inr ⟨value, by rw [List.filterMap_cons_some hpair, List.filterMap_nil],
        .inl (List.prefix_refl value)⟩

theorem filterMap_pieces_nil (limits : Limits) (whole : List Bytes) :
    (pieces whole []).filterMap (linePair? limits) = [] := by
  have hpieces : pieces whole [] = [[]] := by
    rw [pieces]
    split <;> rfl
  rw [hpieces, List.filterMap_cons_none (linePair?_nil limits), List.filterMap_nil]

end Pieces

end StrictTransport.Document
