import StrictTransport.Proofs.Record.Grammar

namespace StrictTransport.Record

open Text

-- Tags with semicolons between them and perhaps one behind the last. White space may stand before
-- each of these and at the end.
inductive Series : List Char → List (List Char × List Char) → Prop
  | nil {cs : List Char} (hcs : AllBlank cs) : Series cs []
  | last {gap part trail name value : List Char} (hgap : AllBlank gap)
      (htag : TagForm part name value) (htrail : AllBlank trail) :
      Series (gap ++ (part ++ trail)) [(name, value)]
  | cons {gap part blanks rest name value : List Char} {tags : List (List Char × List Char)}
      (hgap : AllBlank gap) (htag : TagForm part name value) (hblanks : AllBlank blanks)
      (hrest : Series rest tags) :
      Series (gap ++ (part ++ (blanks ++ ';' :: rest))) ((name, value) :: tags)

-- The texts of the grammar with the tags in them: the version with its semicolon, and a series.
inductive Sentence : List Char → List (List Char × List Char) → Prop
  | intro {lead name equals value blanks rest : List Char} {tags : List (List Char × List Char)}
      (hlead : AllBlank lead) (hname : Spells ['v'] name) (hequals : EqualsForm equals)
      (hvalue : Spells ['S', 'T', 'S', 'v', '1'] value) (hblanks : AllWsp blanks)
      (hrest : Series rest tags) :
      Sentence (lead ++ (name ++ (equals ++ (value ++ (blanks ++ ';' :: rest)))))
        ((name, value) :: tags)

-- The one form of records: a version and an id.
def Written (text version id : List Char) : Prop :=
  ∃ lead name equals blanks gap name' equals' ending trail,
    text = lead ++ (name ++ (equals ++ (version ++ (blanks ++ ';' ::
      (gap ++ (name' ++ (equals' ++ (id ++ (ending ++ trail))))))))) ∧
    AllBlank lead ∧ name ∈ versionNames ∧ EqualsForm equals ∧
    Spells ['S', 'T', 'S', 'v', '1'] version ∧ AllWsp blanks ∧
    AllBlank gap ∧ name' ∈ idNames ∧ EqualsForm equals' ∧ (id ≠ [] ∧ ∀ c ∈ id, isIdChar c = true) ∧
    EndingForm ending ∧ AllBlank trail

section Grammar

theorem AllBlank.noIdChar {cs : List Char} (h : AllBlank cs) :
    ∀ c ∈ cs.head?, isIdChar c = false :=
  fun c hc => isIdChar_of_isBlank (h c (List.mem_of_mem_head? hc))

theorem Series.append {cs : List Char} {tags : List (List Char × List Char)} (h : Series cs tags)
    {white : List Char} (hwhite : AllBlank white) : Series (white ++ cs) tags := by
  cases h with
  | nil hcs => exact .nil (hwhite.append hcs)
  | last hgap htag htrail =>
      rw [← List.append_assoc]
      exact .last (hwhite.append hgap) htag htrail
  | cons hgap htag hblanks hrest =>
      rw [← List.append_assoc]
      exact .cons (hwhite.append hgap) htag hblanks hrest

-- What the grammar accepts behind the version is a series. Each turn takes a tag and a semicolon
-- off the text, so that the induction is on its length.
theorem series_of_walk {skipped : Bool} {cs : List Char} (h : walk .tag skipped 0 cs = none) :
    ∃ tags, Series cs tags := by
  rcases allBlank_or_tag h with hall | ⟨gap, behind, tag, rfl, hgap, htag, hwalk⟩
  · exact ⟨[], .nil hall⟩
  · obtain ⟨part, hbehind, hform, hsize⟩ := tagForm_of_tagAt? htag
    rcases allBlank_or_semicolon hwalk with hall | ⟨blanks, wsp, last, hrest, hblanks, hwsp, hlast⟩
    · rw [hbehind]
      exact ⟨_, .last hgap hform hall⟩
    · have hshorter : last.length < (gap ++ behind).length := by
        have hlength := congrArg List.length hrest
        simp only [List.length_append, List.length_cons, List.length_drop] at hlength ⊢
        omega
      obtain ⟨tags, htags⟩ := series_of_walk hlast
      rw [hbehind, hrest]
      exact ⟨_, .cons hgap hform hblanks (htags.append hwsp)⟩
termination_by cs.length

theorem Series.walk_eq_none {cs : List Char} {tags : List (List Char × List Char)}
    (h : Series cs tags) (skipped : Bool) : walk .tag skipped 0 cs = none := by
  induction h generalizing skipped with
  | nil hcs => exact walk_eq_none_of_allBlank hcs
  | last hgap htag htrail =>
      obtain ⟨tag, htag, -, -, hdrop⟩ := htag.exists_tagAt? htrail.noIdChar
      rw [walk_append_eq_none_iff hgap, walk_of_tagAt? htag, hdrop]
      exact walk_eq_none_of_allBlank htrail
  | cons hgap htag hblanks hrest ih =>
      obtain ⟨tag, htag, -, -, hdrop⟩ :=
        htag.exists_tagAt? (hblanks.not_isIdChar (head?_semicolon _))
      rw [walk_append_eq_none_iff hgap, walk_of_tagAt? htag, hdrop,
        walk_append_eq_none_iff hblanks, walk_semicolon]
      exact ih false

-- A tag as it stands in the text.
def Tag.pair (tag : Tag) : List Char × List Char :=
  (tag.name, tag.value)

-- A search for tags anywhere finds the one at the front and goes on behind it.
theorem TagForm.map_tagsAfter {part name value rest : List Char} (h : TagForm part name value)
    (hrest : ∀ c ∈ rest.head?, isIdChar c = false) :
    (tagsAfter 0 (part ++ rest)).map Tag.pair =
      (name, value) :: (tagsAfter 0 rest).map Tag.pair := by
  obtain ⟨tag, htag, rfl, rfl, hdrop⟩ := h.exists_tagAt? hrest
  rw [tagsAfter_of_tagAt? htag, hdrop, List.map_cons, Tag.pair]

-- The search finds no tags but those of the grammar.
theorem Series.map_tagsAfter {cs : List Char} {tags : List (List Char × List Char)}
    (h : Series cs tags) : (tagsAfter 0 cs).map Tag.pair = tags := by
  induction h with
  | nil hcs => rw [hcs.tagsAfter_eq, List.map_nil]
  | last hgap htag htrail =>
      rw [tagsAfter_append hgap.noLetter, htag.map_tagsAfter htrail.noIdChar, htrail.tagsAfter_eq,
        List.map_nil]
  | cons hgap htag hblanks hrest ih =>
      rw [tagsAfter_append hgap.noLetter,
        htag.map_tagsAfter (hblanks.not_isIdChar (head?_semicolon _)),
        tagsAfter_semicolon hblanks, ih]

theorem Sentence.map_tagsAfter {text : List Char} {tags : List (List Char × List Char)}
    (h : Sentence text tags) : (tagsAfter 0 text).map Tag.pair = tags := by
  obtain @⟨lead, name, equals, value, blanks, rest, tags, hlead, hname, hequals, hvalue, hblanks,
    hrest⟩ := h
  have htag := (tagForm_version hname hequals hvalue).map_tagsAfter
    (hblanks.allBlank.not_isIdChar (head?_semicolon rest))
  rw [List.append_assoc, List.append_assoc] at htag
  rw [tagsAfter_append hlead.noLetter, htag, tagsAfter_semicolon hblanks.allBlank,
    hrest.map_tagsAfter]

theorem Sentence.departure?_eq_none {text : List Char} {tags : List (List Char × List Char)}
    (h : Sentence text tags) : departure? text = none := by
  obtain @⟨lead, name, equals, value, blanks, rest, tags, hlead, hname, hequals, hvalue, hblanks,
    hrest⟩ := h
  obtain ⟨v, others, hv, hsame, -⟩ := hname.cons
  have hblank : isBlank v = false :=
    isBlank_of_isIdChar (isIdChar_of_sameLetter (by decide) hsame)
  have hstart : (lead ++ (name ++ (equals ++ (value ++ (blanks ++ ';' :: rest))))).dropWhile
      isBlank = name ++ (equals ++ (value ++ (blanks ++ ';' :: rest))) := by
    rw [List.dropWhile_append_of_pos hlead, hv, List.cons_append, List.dropWhile_cons_of_neg]
    rw [hblank]
    exact Bool.false_ne_true
  have hwalk := hrest.walk_eq_none false
  rw [← List.takeWhile_append_dropWhile (p := isBlank) (l := rest),
    walk_append_eq_none_iff (allBlank_takeWhile rest)] at hwalk
  simp only [departure?, hstart, dropVersion?_append hname hequals hvalue hblanks, hwalk]

theorem sentence_of_departure? {text : List Char} (h : departure? text = none) :
    ∃ tags, Sentence text tags := by
  simp only [departure?] at h
  split at h
  · cases h
  · rename_i rest hversion
    obtain ⟨name, equals, value, blanks, hstart, hname, hequals, hvalue, hblanks⟩ :=
      dropVersion?_form hversion
    obtain ⟨tags, hseries⟩ := series_of_walk h
    have hrest : Series rest tags := by
      have happend := hseries.append (allBlank_takeWhile rest)
      rwa [List.takeWhile_append_dropWhile] at happend
    have htext : text = text.takeWhile isBlank ++
        (name ++ (equals ++ (value ++ (blanks ++ ';' :: rest)))) := by
      rw [← hstart, List.takeWhile_append_dropWhile]
    rw [htext]
    exact ⟨_, .intro (allBlank_takeWhile text) hname hequals hvalue hblanks hrest⟩

theorem Series.tagForm {cs : List Char} {tags : List (List Char × List Char)} (h : Series cs tags) :
    ∀ tag ∈ tags, ∃ part, TagForm part tag.1 tag.2 := by
  induction h with
  | nil _ => exact fun _ htag => absurd htag List.not_mem_nil
  | last _ htag _ => exact List.forall_mem_singleton.mpr ⟨_, htag⟩
  | cons _ htag _ _ ih => exact List.forall_mem_cons.mpr ⟨⟨_, htag⟩, ih⟩

theorem Sentence.spec {text : List Char} {tags : List (List Char × List Char)}
    (h : Sentence text tags) : ∃ name value rest, tags = (name, value) :: rest ∧
      name ∈ versionNames ∧ ∀ tag ∈ tags, ∃ part, TagForm part tag.1 tag.2 := by
  obtain ⟨-, hname, hequals, hvalue, -, hrest⟩ := h
  exact ⟨_, _, _, rfl, mem_versionNames_of_spells hname,
    List.forall_mem_cons.mpr ⟨⟨_, tagForm_version hname hequals hvalue⟩, hrest.tagForm⟩⟩

end Grammar

section Records

theorem isBlank_of_lowerChar {c : Char} (h : lowerChar c = 'v') : isBlank c = false := by
  have hletter : isAsciiLetter c = true := by
    rw [isAsciiLetter, letter_of_lowerChar h (by decide)]
    decide
  exact isBlank_of_isIdChar (by rw [isIdChar, hletter]; rfl)

theorem lowerChar_of_isWsp {c : Char} (h : isWsp c = true) : lowerChar c = c := by
  simp only [isWsp, Bool.or_eq_true, beq_iff_eq] at h
  rcases h with rfl | rfl <;> decide

-- A policy about senders is no record: where its second letter stands, the version of a record has
-- its own.
theorem not_senderPolicy {text : List Char} {tags : List (List Char × List Char)}
    (h : Sentence text tags) : ¬['v', '=', 's', 'p', 'f', '1'] <+: lower text := by
  intro hpolicy
  obtain @⟨lead, name, equals, value, blanks, rest, tags, hlead, hname, hequals, hvalue, -, -⟩ := h
  have hstart : ['v', '=', 's', 'p'] <+: ['v', '=', 's', 'p', 'f', '1'] := by decide
  obtain ⟨front, hfront, hmap⟩ := exists_prefix_of_lower (hstart.trans hpolicy) (by simp [lowerMarks])
  obtain ⟨a, b, c, d, rfl⟩ := List.length_eq_four.mp (by simpa using congrArg List.length hmap)
  simp only [List.map_cons, List.map_nil, List.cons.injEq, and_true] at hmap
  obtain ⟨ha, hb, hc, hd⟩ := hmap
  obtain ⟨v, rfl, -⟩ := hname.singleton
  obtain ⟨before, after, rfl, hbefore, hafter⟩ := hequals
  obtain ⟨s, others, rfl, -, hothers⟩ := hvalue.cons
  obtain ⟨t, others, rfl, ht, -⟩ := hothers.cons
  -- Each of the four stands where the grammar has it, as white space has no other lower case.
  cases lead with
  | cons w lead =>
      have hw : a = w := (List.cons_prefix_cons.mp hfront).1
      have hblank := hlead w List.mem_cons_self
      rw [← hw, isBlank_of_lowerChar ha] at hblank
      cases hblank
  | nil =>
      have hrest := (List.cons_prefix_cons.mp hfront).2
      cases before with
      | cons w before =>
          have hw : b = w := (List.cons_prefix_cons.mp hrest).1
          have hwsp : isWsp b = true := hw ▸ hbefore w List.mem_cons_self
          rw [← lowerChar_of_isWsp hwsp, hb] at hwsp
          cases hwsp
      | nil =>
          have hrest := (List.cons_prefix_cons.mp hrest).2
          cases after with
          | cons w after =>
              have hw : c = w := (List.cons_prefix_cons.mp hrest).1
              have hwsp : isWsp c = true := hw ▸ hafter w List.mem_cons_self
              rw [← lowerChar_of_isWsp hwsp, hc] at hwsp
              cases hwsp
          | nil =>
              have hrest := (List.cons_prefix_cons.mp hrest).2
              have hd' : d = t := (List.cons_prefix_cons.mp hrest).1
              rw [sameLetter, ← hd', letter_of_lowerChar hd (by decide)] at ht
              exact absurd ht (by decide)

-- What a record is read as once its text follows the grammar.
theorem parse_eq_ok_iff_tags {record : String} {parsed : Parsed} :
    parse record = .ok parsed ↔
      (∃ tags, Sentence (unquote record.toList) tags) ∧
        ∃ id, (tagsAfter 0 (unquote record.toList)).foldlM addTag [] = .ok parsed.tags ∧
          parsed.tags.lookup "id" = some id ∧
          parsed.warnings = if 32 < id.length then
            ["The id tag value should not exceed 32 characters."] else [] := by
  constructor
  · intro h
    simp only [parse] at h
    split at h
    · cases h
    · split at h
      · cases h
      · rename_i hdeparture
        refine ⟨sentence_of_departure? hdeparture, ?_⟩
        cases htags : (tagsAfter 0 (unquote record.toList)).foldlM addTag [] with
        | error e =>
            rw [htags] at h
            cases h
        | ok tags =>
            rw [htags] at h
            cases hid : tags.lookup "id" with
            | none =>
                simp only [bind, Except.bind, hid] at h
                cases h
            | some id =>
                simp only [bind, Except.bind, hid] at h
                obtain rfl := Except.ok.inj h
                exact ⟨id, rfl, hid, rfl⟩
  · rintro ⟨⟨tags, hsentence⟩, id, htags, hid, hwarnings⟩
    have hpolicy : (['v', '=', 's', 'p', 'f', '1'].isPrefixOf (lower (unquote record.toList))) =
        false := by
      rw [← Bool.not_eq_true, List.isPrefixOf_iff_prefix]
      exact not_senderPolicy hsentence
    simp only [parse, hpolicy, hsentence.departure?_eq_none, htags]
    simp only [Bool.false_eq_true, if_false, bind, Except.bind, hid]
    rw [Except.ok.injEq, Parsed.mk.injEq]
    exact ⟨rfl, hwarnings.symm⟩

theorem tagForm_id {name equals id : List Char} (hname : name ∈ idNames)
    (hequals : EqualsForm equals) (hid : id ≠ [] ∧ ∀ c ∈ id, isIdChar c = true) :
    TagForm (name ++ (equals ++ id)) name id := by
  have hnames : ∀ name ∈ idNames, name.length = 2 ∧ name.all isAsciiLetter = true := by
    decide
  obtain ⟨hlength, hletters⟩ := hnames name hname
  exact ⟨equals, rfl, hequals, .inr hlength, List.all_eq_true.mp hletters, hid.1, hid.2⟩

theorem Written.sentence {text version id : List Char} (h : Written text version id) :
    ∃ name name', name ∈ versionNames ∧ name' ∈ idNames ∧
      Sentence text [(name, version), (name', id)] := by
  obtain ⟨lead, name, equals, blanks, gap, name', equals', ending, trail, rfl, hlead, hname,
    hequals, hversion, hblanks, hgap, hname', hequals', hid, hending, htrail⟩ := h
  have hspells : Spells ['v'] name := spells_version_of_mem hname
  have htag := tagForm_id hname' hequals' hid
  refine ⟨name, name', hname, hname', .intro hlead hspells hequals hversion hblanks ?_⟩
  rcases hending with rfl | ⟨white, hwhite, rfl⟩
  · have hseries := Series.last hgap htag htrail
    simpa using hseries
  · have hseries := Series.cons hgap htag hwhite (.nil htrail)
    simpa using hseries

theorem Sentence.written {text version id name name' : List Char}
    (h : Sentence text [(name, version), (name', id)]) (hname' : name' ∈ idNames) :
    Written text version id := by
  obtain @⟨lead, name, equals, version, blanks, rest, tags, hlead, hname, hequals, hversion,
    hblanks, hrest⟩ := h
  have hname := mem_versionNames_of_spells hname
  cases hrest with
  | @last gap part trail _ _ hgap htag htrail =>
      obtain ⟨equals', rfl, hequals', -, -, hid⟩ := htag
      exact ⟨lead, name, equals, blanks, gap, name', equals', [], trail, by simp, hlead, hname,
        hequals, hversion, hblanks, hgap, hname', hequals', hid, .inl rfl, htrail⟩
  | @cons gap part white trail _ _ _ hgap htag hwhite htrail =>
      obtain ⟨equals', rfl, hequals', -, -, hid⟩ := htag
      cases htrail with
      | nil htrail =>
          exact ⟨lead, name, equals, blanks, gap, name', equals', white ++ [';'], trail, by simp,
            hlead, hname, hequals, hversion, hblanks, hgap, hname', hequals', hid,
            .inr ⟨white, hwhite, rfl⟩, htrail⟩

theorem TagForm.trim_value {part name value : List Char} (h : TagForm part name value) :
    trim value = value := by
  obtain ⟨_, -, -, -, -, -, hvalue⟩ := h
  exact trim_eq_self fun c hc => isBlank_of_isIdChar (hvalue c hc)

-- The tags of a sentence are kept if they are the version and an id, and only then there is an id.
theorem Sentence.foldlM_addTag {text version id name name' : List Char}
    (h : Sentence text [(name, version), (name', id)]) (hname' : name' ∈ idNames) :
    (tagsAfter 0 text).foldlM addTag [] =
      .ok [("v", String.ofList version), ("id", String.ofList id)] := by
  obtain ⟨_, _, _, htags, hname, hforms⟩ := h.spec
  obtain ⟨htag, -⟩ := List.cons.inj htags
  obtain ⟨rfl, rfl⟩ := Prod.mk.inj htag
  obtain ⟨_, hversion⟩ := hforms (name, version) (by simp)
  obtain ⟨_, hid⟩ := hforms (name', id) (by simp)
  have hfound := h.map_tagsAfter
  obtain ⟨first, others, hfirst, hpair, hothers⟩ := List.map_eq_cons_iff.mp hfound
  obtain ⟨second, rest, hsecond, hpair', hrest⟩ := List.map_eq_cons_iff.mp hothers
  obtain rfl := List.map_eq_nil_iff.mp hrest
  obtain ⟨rfl, rfl⟩ := Prod.mk.inj hpair
  obtain ⟨rfl, rfl⟩ := Prod.mk.inj hpair'
  have hversion' : trim first.value = first.value := hversion.trim_value
  have hid' : trim second.value = second.value := hid.trim_value
  simp only [hfirst, hsecond, List.foldlM_cons, List.foldlM_nil, bind, Except.bind,
    addTag_version hname, addTag_id hname', hversion', hid']
  rfl

theorem Sentence.of_foldlM_addTag {text : List Char} {pairs : List (List Char × List Char)}
    (h : Sentence text pairs) {tags : List (String × String)} {id : String}
    (htags : (tagsAfter 0 text).foldlM addTag [] = .ok tags) (hid : tags.lookup "id" = some id) :
    ∃ name version name' value, name' ∈ idNames ∧ pairs = [(name, version), (name', value)] := by
  obtain ⟨name, version, rest, rfl, hname, hforms⟩ := h.spec
  have hfound := h.map_tagsAfter
  obtain ⟨first, others, hfirst, hpair, hothers⟩ := List.map_eq_cons_iff.mp hfound
  obtain ⟨rfl, rfl⟩ := Prod.mk.inj hpair
  rw [hfirst] at htags
  obtain ⟨tag, rfl, hlower⟩ := tags_of_version hname htags hid
  obtain rfl : [tag.pair] = rest := hothers
  obtain ⟨_, _, rfl, -, hlength, hletters, -⟩ := hforms tag.pair (by simp)
  refine ⟨first.name, first.value, tag.name, tag.value, ?_, rfl⟩
  refine mem_idNames_of_lower hlength hletters ?_
  rw [← String.ofList_inj]
  exact hlower

-- A record is read if it has the one form, and then as it is written.
theorem parse_eq_ok_iff {record : String} {parsed : Parsed} :
    parse record = .ok parsed ↔ ∃ version id, Written (unquote record.toList) version id ∧
      parsed.tags = [("v", String.ofList version), ("id", String.ofList id)] ∧
      parsed.warnings = if 32 < id.length then
        ["The id tag value should not exceed 32 characters."] else [] := by
  rw [parse_eq_ok_iff_tags]
  constructor
  · rintro ⟨⟨pairs, hsentence⟩, id, htags, hid, hwarnings⟩
    obtain ⟨name, version, name', value, hname', rfl⟩ := hsentence.of_foldlM_addTag htags hid
    rw [hsentence.foldlM_addTag hname'] at htags
    have htags := (Except.ok.inj htags).symm
    rw [htags] at hid
    have hvalue : String.ofList value = id := Option.some.inj hid
    refine ⟨version, value, hsentence.written hname', htags, ?_⟩
    rw [hwarnings, ← hvalue, String.length_ofList]
  · rintro ⟨version, id, hwritten, htags, hwarnings⟩
    obtain ⟨name, name', hname, hname', hsentence⟩ := hwritten.sentence
    refine ⟨⟨_, hsentence⟩, String.ofList id, ?_, ?_, ?_⟩
    · rw [hsentence.foldlM_addTag hname', htags]
    · rw [htags]
      rfl
    · rw [hwarnings, String.length_ofList]

-- The id of a record, in the form in which its token is looked for.
theorem Written.form {text version id : List Char} (h : Written text version id) :
    ∃ gap, Form text gap id := by
  obtain ⟨lead, name, equals, blanks, gap, name', equals', ending, trail, rfl, hlead, hname,
    hequals, hversion, hblanks, hgap, hname', hequals', hid, hending, htrail⟩ := h
  refine ⟨gap, hgap, lead, name ++ (equals ++ (version ++ (blanks ++ [';']))),
    name' ++ (equals' ++ id), ending, trail, by simp, hlead, ?_, ?_, hending, htrail⟩
  · exact ⟨name, equals, version, blanks, rfl, spells_version_of_mem hname, hequals, hversion,
      hblanks⟩
  · exact ⟨name', equals', rfl, spells_id_of_mem hname', hequals', hid.1, hid.2⟩

theorem form_of_parse {text : String} {parsed : Parsed} (h : parse text = .ok parsed) :
    ∃ gap id, parsed.tags.lookup "id" = some id ∧ Form (unquote text.toList) gap id.toList := by
  obtain ⟨version, id, hwritten, htags, -⟩ := parse_eq_ok_iff.mp h
  obtain ⟨gap, hform⟩ := hwritten.form
  refine ⟨gap, String.ofList id, ?_, ?_⟩
  · rw [htags]
    rfl
  · rwa [String.toList_ofList]

-- Records have one form, but for the quotation marks around it: a version, then an id, perhaps with a
-- semicolon behind it. No tag is found in a text of the grammar but those that the grammar reads
-- there.
theorem parse_language (record : String) :
    (∀ parsed, parse record = .ok parsed ↔
      ∃ text version id, Trims (· == '"') record.toList text ∧ Written text version id ∧
        parsed.tags = [("v", String.ofList version), ("id", String.ofList id)] ∧
        parsed.warnings = if 32 < id.length then
          ["The id tag value should not exceed 32 characters."] else []) ∧
      ∀ text, (departure? text = none ↔ ∃ tags, Sentence text tags) ∧
        ∀ tags, Sentence text tags → (tagsAfter 0 text).map Tag.pair = tags := by
  refine ⟨fun parsed => ?_, fun text => ⟨⟨sentence_of_departure?, ?_⟩, ?_⟩⟩
  · rw [parse_eq_ok_iff]
    constructor
    · rintro ⟨version, id, hparsed⟩
      exact ⟨_, version, id, trims_trimWhile _ _, hparsed⟩
    · rintro ⟨text, version, id, htext, hparsed⟩
      obtain rfl : unquote record.toList = text := trimWhile_eq_iff.mpr htext
      exact ⟨version, id, hparsed⟩
  · rintro ⟨tags, hsentence⟩
    exact hsentence.departure?_eq_none
  · exact fun tags hsentence => hsentence.map_tagsAfter

end Records

end StrictTransport.Record
