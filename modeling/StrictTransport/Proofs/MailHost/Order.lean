import Mathlib.Data.List.Perm.Basic
import StrictTransport.MailHost
import StrictTransport.Proofs.Text.Blank
import StrictTransport.Proofs.Text.Split

namespace StrictTransport.MailHost

open Text

-- Whether a text starts with two words with a blank between them.
def Starts (cs first second : List Char) : Prop :=
  ' ' ∉ first ∧ ' ' ∉ second ∧
    ∃ rest, cs = first ++ ' ' :: (second ++ rest) ∧ ∀ c ∈ rest.head?, c = ' '

-- Whether a text names a host: its first word is the preference, and the second one the name, but
-- for the dots behind it, the white space around it and the case of its letters.
def Names (text : String) (host : MailHost) : Prop :=
  ∃ first second undotted name, Starts text.toList first second ∧
    Integer.read (String.ofList first) = .ok host.preference ∧
    TrimsEnd (· == '.') second undotted ∧ Trims isBlank undotted name ∧
    host.name = lowered (String.ofList name)

-- Whether hosts are those that some texts name, one for each of them, by preference and then by
-- name.
structure Lists (texts : List String) (hosts : List MailHost) : Prop where
  each : ∃ named, List.Forall₂ Names texts named ∧ named.Perm hosts
  inOrder : hosts.Pairwise fun a b =>
    a.preference < b.preference ∨ a.preference = b.preference ∧ a.name ≤ b.name

-- What is wrong with a text that names no host.
inductive Fault.Unread : Fault → Prop
  | badPreference (fault : Integer.Fault) : Unread (.badPreference fault)
  | noName : Unread .noName

-- Whether two searches for hosts come to the same, but for which text it is that names none.
inductive Agree {α : Type} : Except Fault α → Except Fault α → Prop
  | same (result : Except Fault α) : Agree result result
  | unread {fault fault' : Fault} (h : fault.Unread) (h' : fault'.Unread) :
      Agree (.error fault) (.error fault')

section Words

variable {cs first second : List Char} {text : String} {host : MailHost}

theorem starts_iff : Starts cs first second ↔ ∃ rest, words cs = first :: second :: rest := by
  constructor
  · rintro ⟨hfirst, hsecond, rest, rfl, hrest⟩
    rw [words, splitOn_append_cons hfirst]
    cases rest with
    | nil => exact ⟨[], by rw [List.append_nil, splitOn_of_notMem hsecond]⟩
    | cons c rest =>
        obtain rfl := hrest c rfl
        exact ⟨_, by rw [splitOn_append_cons hsecond]⟩
  · rintro ⟨rest, hwords⟩
    have hparts := notMem_of_mem_splitOn ' ' cs
    rw [← splitOn_eq, ← words, hwords] at hparts
    refine ⟨hparts first (by simp), hparts second (by simp), ?_⟩
    have hcs := eq_intercalate_splitOn ' ' cs
    rw [← words, hwords, List.intercalate_cons_cons] at hcs
    cases rest with
    | nil =>
        refine ⟨[], ?_, by simp⟩
        rw [hcs, List.intercalate_singleton]
        simp
    | cons third rest =>
        refine ⟨' ' :: [' '].intercalate (third :: rest), ?_, by simp⟩
        rw [hcs, List.intercalate_cons_cons]
        simp

theorem names_iff : Names text host ↔ ∃ first second, Starts text.toList first second ∧
    Integer.read (String.ofList first) = .ok host.preference ∧
    host.name = lowered (trimmed (withoutFinalDots (String.ofList second))) := by
  have hname : ∀ second, trimmed (withoutFinalDots (String.ofList second)) =
      String.ofList (trimWhile isBlank (dropEndWhile (· == '.') second)) := fun second => by
    rw [trimmed, withoutFinalDots, onString, onString, String.toList_ofList, String.toList_ofList,
      trim]
  constructor
  · rintro ⟨first, second, undotted, name, hstarts, hread, hdots, hblanks, heq⟩
    refine ⟨first, second, hstarts, hread, ?_⟩
    rw [hname, dropEndWhile_eq_iff.mpr hdots, trimWhile_eq_iff.mpr hblanks, heq]
  · rintro ⟨first, second, hstarts, hread, heq⟩
    rw [hname] at heq
    exact ⟨first, second, _, _, hstarts, hread, trimsEnd_dropEndWhile _ _, trims_trimWhile _ _, heq⟩

theorem read_eq_ok_iff : read text = .ok host ↔ Names text host := by
  rw [names_iff]
  unfold read
  simp only [starts_iff]
  constructor
  · intro h
    split at h
    · cases h
    · rename_i preference hread
      cases hwords : words text.toList with
      | nil => exact absurd hwords (splitOn_ne_nil ' ' _)
      | cons first rest =>
          rw [hwords] at h hread
          cases rest with
          | nil => cases h
          | cons second rest =>
              cases h
              exact ⟨first, second, ⟨rest, rfl⟩, hread, rfl⟩
  · rintro ⟨first, second, ⟨rest, hwords⟩, hread, hname⟩
    rw [hwords]
    simp only [List.headD_cons, hread, List.drop_succ_cons, List.drop_zero, ← hname]

theorem unread_of_read {fault : Fault} (h : read text = .error fault) : fault.Unread := by
  unfold read at h
  dsimp only at h
  split at h
  · cases h
    exact .badPreference _
  · split at h
    · cases h
      exact .noName
    · cases h

theorem withoutFinalDots_ofList_append (cs : List Char) {dots : List Char}
    (h : ∀ c ∈ dots, (c == '.') = true) :
    withoutFinalDots (String.ofList (cs ++ dots)) = withoutFinalDots (String.ofList cs) := by
  simp only [withoutFinalDots, onString, String.toList_ofList, dropEndWhile_append_of_all h]

theorem Starts.dropEndWhile (h : Starts cs first second) :
    ∃ dots, (∀ c ∈ dots, (c == '.') = true) ∧
      ∃ kept, second = kept ++ dots ∧ Starts (dropEndWhile (· == '.') cs) first kept := by
  obtain ⟨hfirst, hsecond, rest, rfl, hrest⟩ := h
  rw [dropEndWhile_append_cons (by decide)]
  cases rest with
  | nil =>
      obtain ⟨dots, heq, hdots, -⟩ := dropEndWhile_spec (· == '.') second
      rw [List.append_nil]
      refine ⟨dots, hdots, _, heq, hfirst, ?_, [], by rw [List.append_nil], by simp⟩
      exact fun hmem => hsecond (mem_of_mem_dropEndWhile hmem)
  | cons c rest =>
      obtain rfl := hrest c rfl
      rw [dropEndWhile_append_cons (by decide)]
      exact ⟨[], by simp, second, (List.append_nil _).symm, hfirst, hsecond, _, rfl, by simp⟩

theorem Starts.append (h : Starts cs first second) {dots : List Char}
    (hdots : ∀ c ∈ dots, (c == '.') = true) :
    ∃ own, (∀ c ∈ own, (c == '.') = true) ∧ Starts (cs ++ dots) first (second ++ own) := by
  obtain ⟨hfirst, hsecond, rest, rfl, hrest⟩ := h
  cases rest with
  | nil =>
      refine ⟨dots, hdots, hfirst, ?_, [], by simp, by simp⟩
      rw [List.mem_append, not_or]
      exact ⟨hsecond, fun hmem => absurd (hdots ' ' hmem) (by decide)⟩
  | cons c rest =>
      refine ⟨[], by simp, hfirst, by simpa using hsecond, c :: (rest ++ dots), by simp, ?_⟩
      exact fun d hd => hrest d hd

-- The dots at the end of a text are part of no preference, and no name has them.
theorem names_withoutFinalDots : Names (withoutFinalDots text) host ↔ Names text host := by
  have htext : (withoutFinalDots text).toList = dropEndWhile (· == '.') text.toList := by
    rw [withoutFinalDots, onString, String.toList_ofList]
  rw [names_iff, names_iff]
  constructor
  · rintro ⟨first, second, hstarts, hread, hname⟩
    obtain ⟨dots, heq, hdots, -⟩ := dropEndWhile_spec (· == '.') text.toList
    rw [htext] at hstarts
    obtain ⟨own, hown, hstarts⟩ := hstarts.append hdots
    rw [← heq] at hstarts
    refine ⟨first, second ++ own, hstarts, hread, ?_⟩
    rw [hname, withoutFinalDots_ofList_append second hown]
  · rintro ⟨first, second, hstarts, hread, hname⟩
    obtain ⟨dots, hdots, kept, rfl, hkept⟩ := hstarts.dropEndWhile
    refine ⟨first, kept, htext ▸ hkept, hread, ?_⟩
    rw [hname, withoutFinalDots_ofList_append kept hdots]

end Words

section Order

variable {a b c : MailHost}

theorem le_iff : le a b = true ↔
    a.preference < b.preference ∨ a.preference = b.preference ∧ a.name ≤ b.name := by
  simp only [le, Bool.or_eq_true, Bool.and_eq_true, decide_eq_true_iff, beq_iff_eq]

theorem le_trans (hab : le a b = true) (hbc : le b c = true) : le a c = true := by
  rw [le_iff] at hab hbc ⊢
  rcases hab with hab | ⟨hab, hnames⟩
  · rcases hbc with hbc | ⟨hbc, -⟩
    · exact .inl (Int.lt_trans hab hbc)
    · exact .inl (hbc ▸ hab)
  · rcases hbc with hbc | ⟨hbc, hnames'⟩
    · exact .inl (hab ▸ hbc)
    · exact .inr ⟨hab.trans hbc, String.le_trans hnames hnames'⟩

theorem le_total (a b : MailHost) : (le a b || le b a) = true := by
  rw [Bool.or_eq_true, le_iff, le_iff]
  rcases Int.lt_trichotomy a.preference b.preference with hlt | heq | hgt
  · exact .inl (.inl hlt)
  · rcases String.le_total a.name b.name with hle | hle
    · exact .inl (.inr ⟨heq, hle⟩)
    · exact .inr (.inr ⟨heq.symm, hle⟩)
  · exact .inr (.inl hgt)

theorem le_antisymm (hab : le a b = true) (hba : le b a = true) : a = b := by
  rw [le_iff] at hab hba
  rcases hab with hlt | ⟨heq, hnames⟩
  · omega
  · rcases hba with hlt | ⟨-, hnames'⟩
    · omega
    · cases a
      cases b
      simp only at heq hnames hnames'
      rw [heq, String.le_antisymm hnames hnames']

end Order

section Lists

variable {texts texts' : List String} {hosts named : List MailHost}

theorem mapM_read_eq_ok_iff : texts.mapM read = .ok named ↔ List.Forall₂ Names texts named := by
  induction texts generalizing named with
  | nil =>
      rw [List.forall₂_nil_left_iff]
      exact ⟨fun h => (Except.ok.inj h).symm, fun h => h ▸ rfl⟩
  | cons text texts ih =>
      rw [List.mapM_cons, List.forall₂_cons_left_iff]
      constructor
      · intro h
        cases hread : read text with
        | error fault =>
            rw [hread] at h
            cases h
        | ok host =>
            cases hrest : texts.mapM read with
            | error fault =>
                rw [hread, hrest] at h
                cases h
            | ok others =>
                rw [hread, hrest] at h
                exact ⟨host, others, read_eq_ok_iff.mp hread, ih.mp hrest,
                  (Except.ok.inj h).symm⟩
      · rintro ⟨host, others, hnames, hothers, rfl⟩
        rw [read_eq_ok_iff.mpr hnames, ih.mpr hothers]
        rfl

theorem pairwise_sorted (named : List MailHost) :
    (named.mergeSort le).Pairwise fun a b => le a b = true := by
  refine List.pairwise_mergeSort (fun a b c => ?_) le_total named
  exact le_trans

theorem lists_mergeSort (h : List.Forall₂ Names texts named) : Lists texts (named.mergeSort le) :=
  ⟨⟨named, h, (List.mergeSort_perm named le).symm⟩, (pairwise_sorted named).imp le_iff.mp⟩

-- No two hosts can change places in the order, so there is one list of them.
theorem Lists.eq_mergeSort (h : Lists texts hosts) :
    ∃ named, List.Forall₂ Names texts named ∧ hosts = named.mergeSort le := by
  obtain ⟨⟨named, heach, hperm⟩, horder⟩ := h
  have hsorted : hosts.Pairwise fun a b => le a b = true := horder.imp le_iff.mpr
  have hsame : hosts.Perm (named.mergeSort le) :=
    hperm.symm.trans (List.mergeSort_perm named le).symm
  exact ⟨named, heach,
    hsame.eq_of_pairwise (fun _ _ _ _ hab hba => le_antisymm hab hba) hsorted (pairwise_sorted named)⟩

theorem Lists.perm (h : Lists texts hosts) (hperm : texts'.Perm texts) : Lists texts' hosts := by
  obtain ⟨⟨named, heach, hnamed⟩, horder⟩ := h
  obtain ⟨named', heach', hnamed'⟩ := List.perm_comp_forall₂ hperm heach
  exact ⟨⟨named', heach', hnamed'.trans hnamed⟩, horder⟩

theorem lists_withoutFinalDots : Lists (texts.map withoutFinalDots) hosts ↔ Lists texts hosts := by
  have heach : ∀ named, List.Forall₂ Names (texts.map withoutFinalDots) named ↔
      List.Forall₂ Names texts named := fun named => by
    simp only [List.forall₂_map_left_iff, names_withoutFinalDots]
  exact ⟨fun ⟨⟨named, h, hperm⟩, horder⟩ => ⟨⟨named, (heach named).mp h, hperm⟩, horder⟩,
    fun ⟨⟨named, h, hperm⟩, horder⟩ => ⟨⟨named, (heach named).mpr h, hperm⟩, horder⟩⟩

theorem ofTexts_eq_ok_iff (h : texts ≠ [nullRecord]) :
    ofTexts texts = .ok hosts ↔ Lists texts hosts := by
  rw [ofTexts, if_neg h]
  constructor
  · intro hread
    cases hnamed : texts.mapM read with
    | error fault =>
        rw [hnamed] at hread
        cases hread
    | ok named =>
        rw [hnamed] at hread
        obtain rfl := Except.ok.inj hread
        exact lists_mergeSort (mapM_read_eq_ok_iff.mp hnamed)
  · intro hlists
    obtain ⟨named, heach, rfl⟩ := hlists.eq_mergeSort
    rw [mapM_read_eq_ok_iff.mpr heach]
    rfl

-- The record of a domain that takes no mail stands alone, so no other order makes one of it.
theorem ofTexts_perm (h : texts.Perm texts') :
    ofTexts texts = .ok hosts ↔ ofTexts texts' = .ok hosts := by
  by_cases hnull : texts = [nullRecord]
  · rw [hnull] at h ⊢
    rw [List.singleton_perm.mp h]
  · have hnull' : texts' ≠ [nullRecord] := by
      rintro rfl
      exact hnull (List.perm_singleton.mp h)
    rw [ofTexts_eq_ok_iff hnull, ofTexts_eq_ok_iff hnull']
    exact ⟨fun hlists => hlists.perm h.symm, fun hlists => hlists.perm h⟩

theorem unread_of_mapM_read {fault : Fault} (h : texts.mapM read = .error fault) :
    fault.Unread := by
  induction texts with
  | nil => cases h
  | cons text texts ih =>
      rw [List.mapM_cons] at h
      cases hread : read text with
      | error fault' =>
          rw [hread] at h
          cases h
          exact unread_of_read hread
      | ok host =>
          cases hrest : texts.mapM read with
          | error fault' =>
              rw [hread, hrest] at h
              cases h
              exact ih hrest
          | ok others =>
              rw [hread, hrest] at h
              cases h

theorem unread_of_ofTexts {fault : Fault} (h : ofTexts texts = .error fault) : fault.Unread := by
  unfold ofTexts at h
  split at h
  · cases h
  · cases hnamed : texts.mapM read with
    | error fault' =>
        rw [hnamed] at h
        cases h
        exact unread_of_mapM_read hnamed
    | ok named =>
        rw [hnamed] at h
        cases h

theorem ofTexts_agree (h : texts.Perm texts') : Agree (ofTexts texts) (ofTexts texts') := by
  cases hread : ofTexts texts with
  | ok hosts =>
      rw [(ofTexts_perm h).mp hread]
      exact .same _
  | error fault =>
      cases hread' : ofTexts texts' with
      | ok hosts => cases hread.symm.trans ((ofTexts_perm h).mpr hread')
      | error fault' => exact .unread (unread_of_ofTexts hread) (unread_of_ofTexts hread')

end Lists

theorem Agree.map {α β : Type} {x y : Except Fault α} (h : Agree x y) (f : α → β) :
    Agree (x.map f) (y.map f) := by
  cases h with
  | same result => exact .same _
  | unread h h' => exact .unread h h'

theorem Agree.ok_iff {α : Type} {x y : Except Fault α} (h : Agree x y) (a : α) :
    x = .ok a ↔ y = .ok a := by
  cases h with
  | same result => exact Iff.rfl
  | unread => constructor <;> intro heq <;> cases heq

end StrictTransport.MailHost
