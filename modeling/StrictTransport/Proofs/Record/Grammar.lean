import StrictTransport.Proofs.Record.Walk

namespace StrictTransport.Record

open Text

-- What may stand behind the last tag.
def EndingForm (cs : List Char) : Prop :=
  cs = [] ∨ ∃ blanks, AllBlank blanks ∧ cs = blanks ++ [';']

-- A text with one id: the version, the tag with the id, and perhaps a semicolon, with white space
-- around them.
structure Form (text gap id : List Char) : Prop where
  white : AllBlank gap
  parts : ∃ lead version tag ending trail,
    text = lead ++ (version ++ gap ++ tag ++ ending ++ trail) ∧
    AllBlank lead ∧ VersionForm version ∧ IdForm tag id ∧
    EndingForm ending ∧ AllBlank trail

section Names

theorem of_isAsciiLetter {P : Char → Prop}
    (h : ∀ n ∈ smallLetters ++ otherLetters, P (Char.ofNat n)) {c : Char}
    (hc : isAsciiLetter c = true) : P c := by
  have hcode := h _ (mem_letters_of_isAsciiLetter hc)
  rwa [Char.ofNat_toNat] at hcode

theorem lowerAlone_of_isAsciiLetter {c : Char} (h : isAsciiLetter c = true) :
    c ≠ '\u03A3' ∧ lowerAlone c ≠ [] ∧ ∀ d ∈ lowerAlone c, isBlank d = false := by
  obtain ⟨hsigma, hnil, hall⟩ := of_isAsciiLetter (P := fun c => c ≠ '\u03A3' ∧
    lowerAlone c ≠ [] ∧ (lowerAlone c).all (fun d => !isBlank d) = true) (by decide +kernel) h
  exact ⟨hsigma, hnil, fun d hd => by simpa using List.all_eq_true.mp hall d hd⟩

-- The names of the two tags, as they may be written.
def versionNames : List (List Char) :=
  [['v'], ['V']]

def idNames : List (List Char) :=
  [['i', 'd'], ['i', 'D'], ['I', 'd'], ['I', 'D']]

theorem eq_of_lowerAlone {c : Char} (h : isAsciiLetter c = true) :
    (lowerAlone c = ['i'] → c = 'i' ∨ c = 'I') ∧ (lowerAlone c = ['d'] → c = 'd' ∨ c = 'D') :=
  of_isAsciiLetter (P := fun c => (lowerAlone c = ['i'] → c = 'i' ∨ c = 'I') ∧
    (lowerAlone c = ['d'] → c = 'd' ∨ c = 'D')) (by decide +kernel) h

theorem mem_versionNames_of_spells {name : List Char} (h : Spells ['v'] name) :
    name ∈ versionNames := by
  obtain ⟨c, rfl, hsame⟩ := h.singleton
  have hletter : isAsciiLetter c = true := by
    rw [isAsciiLetter_of_sameLetter hsame]
    decide
  have hcase : c = 'v' ∨ c = 'V' := of_isAsciiLetter
    (P := fun c => sameLetter 'v' c = true → c = 'v' ∨ c = 'V') (by decide +kernel) hletter hsame
  rcases hcase with rfl | rfl
  · exact List.mem_cons_self
  · exact List.mem_cons_of_mem _ List.mem_cons_self

theorem mem_idNames_of_lower {name : List Char} (hname : name.length = 1 ∨ name.length = 2)
    (hletters : ∀ c ∈ name, isAsciiLetter c = true) (h : trim (lower name) = ['i', 'd']) :
    name ∈ idNames := by
  have hblank : ∀ d ∈ name.flatMap lowerAlone, isBlank d = false := by
    intro d hd
    obtain ⟨c, hc, hd⟩ := List.mem_flatMap.mp hd
    exact (lowerAlone_of_isAsciiLetter (hletters c hc)).2.2 d hd
  rw [lower_eq_flatMap name fun c hc => (lowerAlone_of_isAsciiLetter (hletters c hc)).1,
    trim_eq_self hblank] at h
  rcases hname with hone | htwo
  · obtain ⟨c, rfl⟩ := List.length_eq_one_iff.mp hone
    rw [List.flatMap_singleton] at h
    exact absurd h (of_isAsciiLetter (P := fun c => lowerAlone c ≠ ['i', 'd']) (by decide +kernel)
      (hletters c List.mem_cons_self))
  · obtain ⟨c, d, rfl⟩ := List.length_eq_two.mp htwo
    have hc := hletters c List.mem_cons_self
    have hd := hletters d (List.mem_cons_of_mem _ List.mem_cons_self)
    rw [List.flatMap_cons, List.flatMap_singleton] at h
    -- Neither of the two lower cases is empty, so that each is one of the two letters.
    rcases List.append_eq_cons_iff.mp h with ⟨hnil, -⟩ | ⟨first, hfirst, hsecond⟩
    · exact absurd hnil (lowerAlone_of_isAsciiLetter hc).2.1
    · rcases List.append_eq_cons_iff.mp hsecond.symm with ⟨rfl, hlast⟩ | ⟨_, -, hnil⟩
      · rcases (eq_of_lowerAlone hc).1 hfirst with rfl | rfl <;>
          rcases (eq_of_lowerAlone hd).2 hlast with rfl | rfl <;> decide
      · exact absurd (List.append_eq_nil_iff.mp hnil.symm).2 (lowerAlone_of_isAsciiLetter hd).2.1

theorem spells_version_of_mem {name : List Char} (h : name ∈ versionNames) :
    Spells ['v'] name := by
  have hletters : sameLetter 'v' 'v' = true ∧ sameLetter 'v' 'V' = true := by
    decide
  simp only [versionNames, List.mem_cons, List.not_mem_nil, or_false] at h
  rcases h with rfl | rfl <;> simp [Spells, hletters]

theorem spells_id_of_mem {name : List Char} (h : name ∈ idNames) : Spells ['i', 'd'] name := by
  have hletters : sameLetter 'i' 'i' = true ∧ sameLetter 'i' 'I' = true ∧
      sameLetter 'd' 'd' = true ∧ sameLetter 'd' 'D' = true := by
    decide
  obtain ⟨hi, hI, hd, hD⟩ := hletters
  simp only [idNames, List.mem_cons, List.not_mem_nil, or_false] at h
  rcases h with rfl | rfl | rfl | rfl <;> simp [Spells, hi, hI, hd, hD]

end Names

section Tags

-- The equations of the search. Those that are derived from its definition are slow, as what a tag is
-- gets unfolded for them.
theorem tagsAfter_nil (size : Nat) : tagsAfter size [] = [] := by
  cases size <;> rfl

theorem tagsAfter_succ (size : Nat) (c : Char) (cs : List Char) :
    tagsAfter (size + 1) (c :: cs) = tagsAfter size cs := by
  rfl

theorem tagsAfter_zero (c : Char) (cs : List Char) :
    tagsAfter 0 (c :: cs) = match tagAt? (c :: cs) with
      | some tag => tag :: tagsAfter (tag.size - 1) cs
      | none => tagsAfter 0 cs := by
  rfl

theorem tagsAfter_drop (n : Nat) (cs : List Char) : tagsAfter n cs = tagsAfter 0 (cs.drop n) := by
  induction n generalizing cs with
  | zero => rfl
  | succ n ih =>
      cases cs with
      | nil => rw [List.drop_nil, tagsAfter_nil, tagsAfter_nil]
      | cons c cs => rw [tagsAfter_succ, ih, List.drop_succ_cons]

theorem tagsAfter_of_tagAt? {cs : List Char} {tag : Tag} (h : tagAt? cs = some tag) :
    tagsAfter 0 cs = tag :: tagsAfter 0 (cs.drop tag.size) := by
  obtain ⟨_, _, _, _, _, _, _, hsize⟩ := tagAt?_spec h
  obtain ⟨n, hn⟩ := Nat.exists_eq_add_of_le' hsize
  cases cs with
  | nil => cases h
  | cons c cs =>
      rw [tagsAfter_zero, h]
      simp only
      rw [hn, Nat.add_sub_cancel, tagsAfter_drop, List.drop_succ_cons]

-- No tag begins at a character that is no letter.
theorem tagsAfter_append {cs : List Char} (h : ∀ c ∈ cs, isAsciiLetter c = false)
    (rest : List Char) : tagsAfter 0 (cs ++ rest) = tagsAfter 0 rest := by
  induction cs with
  | nil => rfl
  | cons c cs ih =>
      obtain ⟨hc, hcs⟩ := List.forall_mem_cons.mp h
      have hnone : tagAt? (c :: (cs ++ rest)) = none := by
        rw [tagAt?, List.take_succ_cons, List.takeWhile_cons_of_neg (by rw [hc]; decide)]
        rfl
      rw [List.cons_append, tagsAfter_zero, hnone]
      exact ih hcs

theorem AllBlank.noLetter {cs : List Char} (h : AllBlank cs) :
    ∀ c ∈ cs, isAsciiLetter c = false :=
  fun c hc => isAsciiLetter_of_isBlank (h c hc)

theorem AllBlank.tagsAfter_eq {cs : List Char} (h : AllBlank cs) : tagsAfter 0 cs = [] := by
  rw [← List.append_nil cs, tagsAfter_append h.noLetter, tagsAfter_nil]

theorem tagsAfter_semicolon {blanks : List Char} (hblanks : AllBlank blanks) (rest : List Char) :
    tagsAfter 0 (blanks ++ ';' :: rest) = tagsAfter 0 rest := by
  have hpassed : ∀ c ∈ blanks ++ [';'], isAsciiLetter c = false := by
    intro c hc
    rcases List.mem_append.mp hc with hblank | hsemicolon
    · exact hblanks.noLetter c hblank
    · rw [List.mem_singleton.mp hsemicolon]
      exact isAsciiLetter_semicolon
  rw [← List.singleton_append, ← List.append_assoc, tagsAfter_append hpassed]

theorem addTag_eq_ok {tags tags' : List (String × String)} {tag : Tag}
    (h : addTag tags tag = .ok tags') :
    ∃ name, name = String.ofList (trim (lower tag.name)) ∧ (name = "v" ∨ name = "id") ∧
      (∀ e ∈ tags, e.1 ≠ name) ∧ tags' = tags ++ [(name, String.ofList (trim tag.value))] := by
  simp only [addTag] at h
  split at h
  · cases h
  · rename_i hknown
    split at h
    · cases h
    · rename_i hnew
      refine ⟨_, rfl, by tauto, ?_, (Except.ok.inj h).symm⟩
      intro e he heq
      exact hnew (List.any_eq_true.mpr ⟨e, he, beq_iff_eq.mpr heq⟩)

theorem foldlM_addTag_cons {tags tags' : List (String × String)} {tag : Tag} {rest : List Tag}
    (h : (tag :: rest).foldlM addTag tags = .ok tags') :
    ∃ added, addTag tags tag = .ok added ∧ rest.foldlM addTag added = .ok tags' := by
  rw [List.foldlM_cons] at h
  cases hadd : addTag tags tag with
  | error e =>
      rw [hadd] at h
      cases h
  | ok added =>
      rw [hadd] at h
      exact ⟨added, rfl, h⟩

theorem addTag_version {version : Tag} (h : version.name ∈ versionNames) :
    addTag [] version = .ok [("v", String.ofList (trim version.value))] := by
  have hnames : ∀ name ∈ versionNames, String.ofList (trim (lower name)) = "v" := by
    decide
  simp [addTag, hnames _ h]

theorem addTag_id {tag : Tag} (h : tag.name ∈ idNames) (version : String) :
    addTag [("v", version)] tag =
      .ok [("v", version), ("id", String.ofList (trim tag.value))] := by
  have hnames : ∀ name ∈ idNames, String.ofList (trim (lower name)) = "id" := by
    decide
  simp [addTag, hnames _ h]

-- The first tag is the version, so that there is one more, which is the id.
theorem tags_of_version {version : Tag} {rest : List Tag} {tags : List (String × String)}
    {id : String} (hversion : version.name ∈ versionNames)
    (h : (version :: rest).foldlM addTag [] = .ok tags) (hid : tags.lookup "id" = some id) :
    ∃ tag, rest = [tag] ∧ String.ofList (trim (lower tag.name)) = "id" := by
  obtain ⟨added, hfirst, h⟩ := foldlM_addTag_cons h
  rw [addTag_version hversion] at hfirst
  obtain rfl := Except.ok.inj hfirst
  cases rest with
  | nil =>
      obtain rfl := Except.ok.inj h
      cases hid
  | cons tag rest =>
      obtain ⟨_, hsecond, h⟩ := foldlM_addTag_cons h
      obtain ⟨second, hname, hknown, hnew, rfl⟩ := addTag_eq_ok hsecond
      obtain rfl : second = "id" := by
        rcases hknown with rfl | hid'
        · exact absurd rfl (hnew _ List.mem_cons_self)
        · exact hid'
      cases rest with
      | nil => exact ⟨tag, rfl, hname.symm⟩
      | cons other rest =>
          obtain ⟨_, hthird, -⟩ := foldlM_addTag_cons h
          obtain ⟨third, -, rfl | rfl, hnew', -⟩ := addTag_eq_ok hthird
          · exact absurd rfl (hnew' _ List.mem_cons_self)
          · exact absurd rfl (hnew' _ (List.mem_cons_of_mem _ List.mem_cons_self))

end Tags

end StrictTransport.Record
