import StrictTransport.Proofs.Document.Pairs

namespace StrictTransport.Document

open Text

-- What a line of a document may end in.
inductive LineEnd where
  | bare
  | full
  deriving DecidableEq

def LineEnd.bytes : LineEnd → Bytes
  | bare => [lf]
  | full => [cr, lf]

-- The body of lines, each with an end of its own.
def ended (ls : List (Bytes × LineEnd)) : Bytes :=
  ls.flatMap fun line => line.1 ++ line.2.bytes

-- The same lines, with the same end behind each.
def allEnded (e : LineEnd) (ls : List (Bytes × LineEnd)) : List (Bytes × LineEnd) :=
  ls.map fun line => (line.1, e)

-- The lines that are told apart by CR LF alone. One with a bare LF behind it is of a piece with
-- the next, the LF between them.
def fused : List (Bytes × LineEnd) → List Bytes
  | [] => [[]]
  | (line, .full) :: rest => line :: fused rest
  | (line, .bare) :: rest => (fused rest).modifyHead fun next => line ++ lf :: next

theorem fused_ne_nil (ls : List (Bytes × LineEnd)) : fused ls ≠ [] := by
  induction ls with
  | nil => exact List.cons_ne_nil [] []
  | cons line ls ih =>
      obtain ⟨bytes, e⟩ := line
      cases e with
      | full => exact List.cons_ne_nil bytes _
      | bare =>
          obtain ⟨next, parts, hparts⟩ := List.exists_cons_of_ne_nil ih
          rw [fused, hparts]
          exact List.cons_ne_nil _ parts

-- Lines that have no end within.
def Plain (ls : List (Bytes × LineEnd)) : Prop :=
  ∀ line ∈ ls, cr ∉ line.1 ∧ lf ∉ line.1

section Lines

variable {ls : List (Bytes × LineEnd)}

theorem Plain.allEnded (h : Plain ls) (e : LineEnd) : Plain (allEnded e ls) := by
  intro line hline
  obtain ⟨other, hother, rfl⟩ := List.mem_map.mp hline
  exact h other hother

theorem no_pair_of_cr_notMem {line : Bytes} (h : cr ∉ line) : ¬[cr, lf] <:+: line :=
  fun hpair => h (hpair.subset List.mem_cons_self)

theorem splitOnPair_ended (h : Plain ls) : splitOnPair cr lf (ended ls) = fused ls := by
  induction ls with
  | nil => rfl
  | cons line ls ih =>
      obtain ⟨hline, hrest⟩ := List.forall_mem_cons.mp h
      obtain ⟨bytes, e⟩ := line
      cases e with
      | full =>
          have hbody : ended ((bytes, .full) :: ls) = bytes ++ cr :: lf :: ended ls := by
            simp [ended, LineEnd.bytes]
          rw [hbody, splitOnPair_append cr lf (by decide) _ _ (no_pair_of_cr_notMem hline.1), ih hrest,
            fused]
      | bare =>
          have hbody : ended ((bytes, .bare) :: ls) = (bytes ++ [lf]) ++ ended ls := by
            simp [ended, LineEnd.bytes]
          have hfront : cr ∉ bytes ++ [lf] := by
            rw [List.mem_append, not_or]
            exact ⟨hline.1, by decide⟩
          obtain ⟨next, parts, hparts⟩ := List.exists_cons_of_ne_nil
            (splitOnPair_ne_nil cr lf (ended ls))
          rw [hbody, splitOnPair_append_of_notMem cr lf hfront hparts, fused, ← ih hrest, hparts]
          simp

theorem fused_full (h : ∀ line ∈ ls, line.2 = .full) : fused ls = ls.map Prod.fst ++ [[]] := by
  induction ls with
  | nil => rfl
  | cons line ls ih =>
      obtain ⟨hline, hrest⟩ := List.forall_mem_cons.mp h
      obtain ⟨bytes, e⟩ := line
      obtain rfl : e = .full := hline
      rw [fused, ih hrest]
      rfl

-- One line that ends in CR LF is enough for the body to be split at CR LF.
theorem lines_ended_of_full (hplain : Plain ls) (h : ∃ line ∈ ls, line.2 = .full) :
    lines (ended ls) = fused ls := by
  obtain ⟨line, hline, hfull⟩ := h
  obtain ⟨front, back, rfl⟩ := List.append_of_mem hline
  refine (lines_of_hasPair ⟨ended front ++ line.1, ended back, ?_⟩).trans (splitOnPair_ended hplain)
  simp [ended, hfull, LineEnd.bytes]

theorem cr_notMem_ended (hplain : Plain ls) (h : ∀ line ∈ ls, line.2 = .bare) :
    cr ∉ ended ls := by
  intro hmem
  obtain ⟨line, hline, hcr⟩ := List.mem_flatMap.mp hmem
  rw [h line hline] at hcr
  rcases List.mem_append.mp hcr with hbytes | hend
  · exact (hplain line hline).1 hbytes
  · exact absurd hend (by decide)

theorem lines_ended_of_bare (hplain : Plain ls) (h : ∀ line ∈ ls, line.2 = .bare) :
    lines (ended ls) = ls.map Prod.fst ++ [[]] := by
  have hbody : [lf].intercalate (ls.map Prod.fst ++ [[]]) = ended ls := by
    rw [intercalate_append_singleton, List.append_nil, List.flatMap_map, ended]
    exact List.flatMap_congr fun line hline => by rw [h line hline]; rfl
  refine ((areLines_iff _ _).mp ⟨by simp, ?_⟩).symm
  rw [if_neg (no_pair_of_cr_notMem (cr_notMem_ended hplain h))]
  refine ⟨hbody, fun line hline => ?_⟩
  rcases List.mem_append.mp hline with hmem | hlast
  · obtain ⟨other, hother, rfl⟩ := List.mem_map.mp hmem
    exact (hplain other hother).2
  · rw [List.mem_singleton.mp hlast]
    exact List.not_mem_nil

theorem map_fst_allEnded (e : LineEnd) (ls : List (Bytes × LineEnd)) :
    (allEnded e ls).map Prod.fst = ls.map Prod.fst := by
  rw [allEnded, List.map_map]
  rfl

-- Either end will do as long as it is the same one throughout.
theorem lines_allEnded (hplain : Plain ls) (e : LineEnd) :
    lines (ended (allEnded e ls)) = ls.map Prod.fst ++ [[]] := by
  have hends : ∀ line ∈ allEnded e ls, line.2 = e :=
    List.forall_mem_map.mpr fun _ _ => rfl
  rw [← map_fst_allEnded e ls]
  cases e with
  | bare => exact lines_ended_of_bare (hplain.allEnded .bare) hends
  | full =>
      cases ls with
      | nil => rfl
      | cons line ls =>
          rw [lines_ended_of_full (hplain.allEnded .full)
            ⟨_, List.mem_cons_self, hends _ List.mem_cons_self⟩, fused_full hends]

end Lines

section Pairs

variable {limits : Limits} {pair : String × String}

-- The grammar lets one LF through, behind everything else.
theorem PairForm.of_append_lf {line rest key value : Bytes}
    (h : PairForm (line ++ lf :: rest) key value) : rest = [] ∧ PairForm line key value := by
  obtain ⟨before, gap, part, hform, hbefore, hgap, hkey, lead, trail, ending, rfl, hlead, htrail,
    hending, hvalue⟩ := h
  have hblank : ∀ {blanks : Bytes}, AllWsp blanks → lf ∉ blanks :=
    fun hblanks hmem => absurd (hblanks lf hmem) (by decide)
  have hnot : lf ∉ before ++ (key ++ (gap ++ colon :: (lead ++ (value ++ trail)))) := by
    simp only [List.mem_append, List.mem_cons, not_or]
    exact ⟨hblank hbefore, fun hmem => absurd (hkey.2.2 lf hmem) (by decide), hblank hgap,
      by decide, hblank hlead, hvalue.2.2, hblank htrail⟩
  have hwhole : line ++ lf :: rest =
      (before ++ (key ++ (gap ++ colon :: (lead ++ (value ++ trail))))) ++ ending := by
    rw [hform]
    simp
  rcases hending with rfl | rfl
  · rw [List.append_nil] at hwhole
    rw [← hwhole] at hnot
    exact absurd (List.mem_append_right _ List.mem_cons_self) hnot
  · obtain ⟨rfl, -, rfl⟩ :=
      (List.append_cons_inj_of_notMem hnot List.not_mem_nil).mp hwhole.symm
    exact ⟨rfl, before, gap, lead ++ (value ++ trail), rfl, hbefore, hgap, hkey, lead,
      trail, [], by simp, hlead, htrail, .inl rfl, hvalue⟩

theorem linePair?_append_lf {line rest : Bytes}
    (h : linePair? limits (line ++ lf :: rest) = some pair) :
    rest = [] ∧ linePair? limits line = some pair := by
  obtain ⟨hfits, key, value, hform, hpair⟩ := (linePair?_eq_some_iff limits _ pair).mp h
  obtain ⟨hrest, hform⟩ := hform.of_append_lf
  refine ⟨hrest, (linePair?_eq_some_iff limits line pair).mpr ⟨?_, key, value, hform, hpair⟩⟩
  rw [List.length_append] at hfits
  omega

theorem linePair?_nil (limits : Limits) : linePair? limits [] = none :=
  linePair?_of_colon_notMem limits List.not_mem_nil

-- Of lines that are of a piece at most the last one is read, and only if nothing follows its LF.
theorem sublist_fused {ls : List (Bytes × LineEnd)} (h : Plain ls) :
    ((fused ls).filterMap (linePair? limits)).Sublist
      ((ls.map Prod.fst).filterMap (linePair? limits)) := by
  induction ls with
  | nil =>
      rw [fused, List.filterMap_cons_none (linePair?_nil limits)]
      exact List.Sublist.refl []
  | cons line ls ih =>
      obtain ⟨hline, hrest⟩ := List.forall_mem_cons.mp h
      obtain ⟨bytes, e⟩ := line
      have htail := ih hrest
      cases e with
      | full =>
          simp only [fused, List.map_cons]
          cases hpair : linePair? limits bytes with
          | none =>
              rw [List.filterMap_cons_none hpair, List.filterMap_cons_none hpair]
              exact htail
          | some pair =>
              rw [List.filterMap_cons_some hpair, List.filterMap_cons_some hpair]
              exact htail.cons_cons pair
      | bare =>
          obtain ⟨next, parts, hparts⟩ := List.exists_cons_of_ne_nil (fused_ne_nil ls)
          rw [fused, List.map_cons, hparts, List.modifyHead_cons]
          rw [hparts] at htail
          cases hpair : linePair? limits (bytes ++ lf :: next) with
          | none =>
              rw [List.filterMap_cons_none hpair]
              exact (((List.sublist_cons_self next parts).filterMap _).trans htail).trans
                ((List.sublist_cons_self bytes _).filterMap _)
          | some pair =>
              obtain ⟨rfl, hbytes⟩ := linePair?_append_lf hpair
              rw [List.filterMap_cons_none (linePair?_nil limits)] at htail
              rw [List.filterMap_cons_some hpair, List.filterMap_cons_some hbytes]
              exact htail.cons_cons pair

end Pairs

theorem parse_eq_of_lines {body other : Bytes} (limits : Limits) (h : lines body = lines other) :
    parse limits body = parse limits other := by
  simp only [parse, readings, h]

-- Which end the lines have does not matter, but it is told for the body as a whole: next to a line
-- that ends in CR LF, a bare LF ends no line. Lines are lost to that, and none is made up.
theorem parse_ended (limits : Limits) {ls : List (Bytes × LineEnd)} (hplain : Plain ls) :
    (∀ e, (∀ line ∈ ls, line.2 = e) →
        parse limits (ended ls) = parse limits (ended (allEnded .full ls))) ∧
      ((∃ line ∈ ls, line.2 = .full) → lines (ended ls) = fused ls) ∧
      (parse limits (ended ls)).1.Sublist (parse limits (ended (allEnded .full ls))).1 := by
  have hsame : ∀ e, (∀ line ∈ ls, line.2 = e) →
      parse limits (ended ls) = parse limits (ended (allEnded .full ls)) := by
    intro e he
    have hall : allEnded e ls = ls :=
      (List.map_congr_left fun line hline => by rw [id_eq, ← he line hline]).trans (List.map_id ls)
    refine parse_eq_of_lines limits ?_
    rw [lines_allEnded hplain, ← hall, lines_allEnded hplain, map_fst_allEnded]
  refine ⟨hsame, lines_ended_of_full hplain, ?_⟩
  by_cases hfull : ∃ line ∈ ls, line.2 = .full
  · rw [fst_parse, fst_parse, lines_ended_of_full hplain hfull, lines_allEnded hplain,
      List.filterMap_append, List.filterMap_cons_none (linePair?_nil limits), List.filterMap_nil,
      List.append_nil]
    exact sublist_fused hplain
  · have hbare : ∀ line ∈ ls, line.2 = .bare := by
      intro line hline
      cases hend : line.2 with
      | bare => rfl
      | full => exact absurd ⟨line, hline, hend⟩ hfull
    rw [hsame .bare hbare]

-- A policy whose first line has another end than the others.
def mixedLines : List (Bytes × LineEnd) :=
  [(Utf8.encode "version: STSv1".toList, .bare), (Utf8.encode "mode: enforce".toList, .full),
    (Utf8.encode "mx: *.example.com".toList, .full),
    (Utf8.encode "max_age: 86400".toList, .full)]

theorem mixedLines_plain : Plain mixedLines := by
  unfold Plain
  decide

theorem mixedLines_fused :
    Plain mixedLines ∧ (∃ line ∈ mixedLines, line.2 = .full) ∧
      lines (ended mixedLines) = fused mixedLines ∧
      (parse .standard (ended mixedLines)).1.Sublist
        (parse .standard (ended (allEnded .full mixedLines))).1 := by
  have hfull : ∃ line ∈ mixedLines, line.2 = .full := by decide
  obtain ⟨-, hlines, hpairs⟩ := parse_ended .standard mixedLines_plain
  exact ⟨mixedLines_plain, hfull, hlines hfull, hpairs⟩

theorem mixedLines_differ :
    Plain mixedLines ∧
      parse .standard (ended (allEnded .full mixedLines)) =
        ([("version", "STSv1"), ("mode", "enforce"), ("mx", "*.example.com"),
          ("max_age", "86400")], .empty) ∧
      parse .standard (ended mixedLines) =
        ([("mx", "*.example.com"), ("max_age", "86400")],
          ⟨[.badLine 1 "version: STSv1\nmode: enforce"], []⟩) :=
  ⟨mixedLines_plain, by decide +kernel, by decide +kernel⟩

end StrictTransport.Document
