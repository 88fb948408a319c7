import StrictTransport.Proofs.Record.Language
import StrictTransport.Store.Basic

namespace StrictTransport.Record

open Text

section Unquoted

def AllQuotes (cs : List Char) : Prop :=
  ∀ c ∈ cs, (c == '"') = true

-- What stands at the front of a record without its white space: either nothing, or the quotation
-- marks and the white space behind them.
theorem dropWhile_quotes {quotes lead rest : List Char} (hquotes : AllQuotes quotes)
    (hlead : AllBlank lead) (hrest : ∃ c ∈ rest.head?, isBlank c = false) :
    ∃ quotes' lead', (quotes ++ (lead ++ rest)).dropWhile isBlank = quotes' ++ (lead' ++ rest) ∧
      AllQuotes quotes' ∧ AllBlank lead' := by
  obtain ⟨c, hc, hblank⟩ := hrest
  cases quotes with
  | nil =>
      refine ⟨[], [], ?_, hquotes, fun _ h => absurd h List.not_mem_nil⟩
      rw [List.nil_append, List.dropWhile_append_of_pos hlead]
      rw [← List.append_nil rest, dropWhile_append_of_head isBlank c rest [] hc hblank]
      rfl
  | cons q quotes =>
      refine ⟨q :: quotes, lead, ?_, hquotes, hlead⟩
      obtain rfl := beq_iff_eq.mp (hquotes q List.mem_cons_self)
      rw [List.cons_append, List.dropWhile_cons_of_neg (by decide)]

theorem AllBlank.reverse {cs : List Char} (h : AllBlank cs) : AllBlank cs.reverse :=
  fun c hc => h c (List.mem_reverse.mp hc)

theorem AllQuotes.reverse {cs : List Char} (h : AllQuotes cs) : AllQuotes cs.reverse :=
  fun c hc => h c (List.mem_reverse.mp hc)

theorem dropEndWhile_quotes {quotes trail rest : List Char} (hquotes : AllQuotes quotes)
    (htrail : AllBlank trail) (hrest : ∃ c ∈ rest.getLast?, isBlank c = false) :
    ∃ quotes' trail', dropEndWhile isBlank (rest ++ trail ++ quotes) = rest ++ trail' ++ quotes' ∧
      AllQuotes quotes' ∧ AllBlank trail' := by
  rw [← List.head?_reverse] at hrest
  obtain ⟨quotes', trail', heq, hquotes', htrail'⟩ :=
    dropWhile_quotes hquotes.reverse htrail.reverse hrest
  refine ⟨quotes'.reverse, trail'.reverse, ?_, hquotes'.reverse, htrail'.reverse⟩
  rw [dropEndWhile, List.reverse_append, List.reverse_append, heq]
  simp

theorem ne_quote_of_isBlank {c : Char} (h : isBlank c = true) : (c == '"') = false := by
  rw [beq_eq_false_iff_ne]
  rintro rfl
  exact absurd h (by decide)

theorem head?_append_neg {p : Char → Bool} {cs rest : List Char} (hcs : ∀ c ∈ cs, p c = false)
    (hrest : ∃ c ∈ rest.head?, p c = false) : ∃ c ∈ (cs ++ rest).head?, p c = false := by
  cases cs with
  | nil => exact hrest
  | cons c cs => exact ⟨c, rfl, hcs c List.mem_cons_self⟩

theorem getLast?_append_neg {p : Char → Bool} {cs rest : List Char} (hcs : ∀ c ∈ cs, p c = false)
    (hrest : ∃ c ∈ rest.getLast?, p c = false) : ∃ c ∈ (rest ++ cs).getLast?, p c = false := by
  rw [← List.head?_reverse] at hrest ⊢
  rw [List.reverse_append]
  exact head?_append_neg (fun c hc => hcs c (List.mem_reverse.mp hc)) hrest

-- The text in which the token is looked for and the one that is read differ in nothing but the
-- white space around them.
theorem unquote_trim {cs lead core trail : List Char} (h : unquote cs = lead ++ core ++ trail)
    (hlead : AllBlank lead) (htrail : AllBlank trail)
    (hfirst : ∃ c ∈ core.head?, isBlank c = false ∧ (c == '"') = false)
    (hlast : ∃ c ∈ core.getLast?, isBlank c = false ∧ (c == '"') = false) :
    ∃ lead' trail', unquote (trim cs) = lead' ++ core ++ trail' ∧ AllBlank lead' ∧
      AllBlank trail' := by
  obtain ⟨a, ha, hablank, haquote⟩ := hfirst
  obtain ⟨b, hb, hbblank, hbquote⟩ := hlast
  obtain ⟨behind, hback, hbehind, -⟩ := dropEndWhile_spec (· == '"') (cs.dropWhile (· == '"'))
  have hfront : AllQuotes (cs.takeWhile (· == '"')) := fun c hc =>
    List.mem_takeWhile_imp (p := (· == '"')) hc
  have hcs : cs = cs.takeWhile (· == '"') ++ (lead ++ (core ++ trail ++ behind)) := by
    conv_lhs => rw [← List.takeWhile_append_dropWhile (p := (· == '"')) (l := cs), hback]
    change _ ++ (unquote cs ++ behind) = _
    rw [h]
    simp
  generalize cs.takeWhile (· == '"') = before at hcs hfront
  have hcoreHead : ∃ c ∈ (core ++ trail ++ behind).head?, isBlank c = false :=
    ⟨a, by rw [List.append_assoc]; exact List.mem_head?_append_of_mem_head? ha, hablank⟩
  obtain ⟨before', lead', hdrop, hbefore', hlead'⟩ := dropWhile_quotes hfront hlead hcoreHead
  have hcoreLast : ∃ c ∈ (before' ++ lead' ++ core).getLast?, isBlank c = false :=
    ⟨b, List.mem_getLast?_append_of_mem_getLast? hb, hbblank⟩
  obtain ⟨behind', trail', hdropEnd, hbehind', htrail'⟩ :=
    dropEndWhile_quotes hbehind htrail hcoreLast
  refine ⟨lead', trail', ?_, hlead', htrail'⟩
  have htrim : trim cs = before' ++ (lead' ++ core ++ trail' ++ behind') := by
    rw [trim, trimWhile, hcs, hdrop]
    rw [← List.append_assoc before', ← List.append_assoc, ← List.append_assoc, hdropEnd]
    simp
  have hquote : ∀ c ∈ lead', (c == '"') = false := fun c hc => ne_quote_of_isBlank (hlead' c hc)
  have hquote' : ∀ c ∈ trail', (c == '"') = false := fun c hc => ne_quote_of_isBlank (htrail' c hc)
  have hhead : ∃ c ∈ (core ++ trail').head?, (c == '"') = false :=
    ⟨a, List.mem_head?_append_of_mem_head? ha, haquote⟩
  have hend : ∃ c ∈ (lead' ++ core).getLast?, (c == '"') = false :=
    ⟨b, List.mem_getLast?_append_of_mem_getLast? hb, hbquote⟩
  obtain ⟨first, hfirst, hfirstQuote⟩ := head?_append_neg (p := (· == '"')) hquote hhead
  obtain ⟨last, hlast, hlastQuote⟩ := getLast?_append_neg (p := (· == '"')) hquote' hend
  rw [unquote, htrim, trimWhile, List.dropWhile_append_of_pos hbefore']
  rw [← List.append_assoc] at hfirst
  exact trimWhile_append_of_ends _ first last _ _ hfirst hfirstQuote hlast hlastQuote hbehind'

end Unquoted

section Tokens

theorem laterIdValue?_append {cs : List Char} (h : ';' ∉ cs) (rest : List Char) :
    laterIdValue? (cs ++ rest) = laterIdValue? rest := by
  induction cs with
  | nil => rfl
  | cons c cs ih =>
      rw [List.mem_cons, not_or] at h
      rw [List.cons_append, laterIdValue?, if_neg (by simpa using Ne.symm h.1)]
      exact ih h.2

theorem idValue?_eq_none {cs : List Char}
    (h : ∀ c ∈ (cs.dropWhile isWsp).head?, sameLetter 'i' c = false) : idValue? cs = none := by
  have hname : dropLetters? ['i', 'd'] (cs.dropWhile isWsp) = none := by
    cases hdrop : cs.dropWhile isWsp with
    | nil => rfl
    | cons c rest =>
        rw [hdrop] at h
        rw [dropLetters?, h c rfl]
        rfl
  simp only [idValue?, hname]

theorem sameLetter_of_isBlank {c : Char} (h : isBlank c = true) : sameLetter 'i' c = false := by
  rw [← Bool.not_eq_true]
  intro hsame
  have hletter : isAsciiLetter c = true := by
    rw [isAsciiLetter_of_sameLetter hsame]
    decide
  rw [isAsciiLetter_of_isBlank h] at hletter
  cases hletter

-- An id stands behind blanks, not behind other white space.
theorem idValue?_of_allBlank {white rest : List Char} (hwhite : AllBlank white)
    (hrest : white.all isWsp = true →
      ∀ c ∈ rest.head?, isWsp c = false ∧ sameLetter 'i' c = false) :
    idValue? (white ++ rest) = none := by
  refine idValue?_eq_none fun c hc => ?_
  rw [List.dropWhile_append] at hc
  split at hc
  · rename_i hempty
    have hwsp : white.all isWsp = true := by
      rw [List.isEmpty_iff, List.dropWhile_eq_nil_iff] at hempty
      exact List.all_eq_true.mpr hempty
    cases rest with
    | nil => cases hc
    | cons d rest =>
        obtain ⟨hd, hsame⟩ := hrest hwsp d rfl
        rw [List.dropWhile_cons_of_neg (by rw [hd]; exact Bool.false_ne_true)] at hc
        obtain rfl : d = c := Option.some.inj hc
        exact hsame
  · rename_i hne
    obtain ⟨d, others, hcons⟩ := List.exists_cons_of_ne_nil (mt List.isEmpty_iff.mpr hne)
    rw [hcons] at hc
    obtain rfl : d = c := Option.some.inj hc
    refine sameLetter_of_isBlank (hwhite d ?_)
    exact (List.dropWhile_sublist isWsp).subset (hcons ▸ List.mem_cons_self)

theorem IdForm.cons {cs id : List Char} (h : IdForm cs id) :
    ∃ i rest, cs = i :: rest ∧ isIdChar i = true := by
  obtain ⟨name, equals, rfl, hname, -, -, -⟩ := h
  obtain ⟨i, d, rfl, hi, -⟩ := hname.pair
  exact ⟨i, _, rfl, isIdChar_of_sameLetter (by decide) hi⟩

theorem IdForm.getLast? {cs id : List Char} (h : IdForm cs id) :
    ∃ c ∈ cs.getLast?, isIdChar c = true := by
  obtain ⟨name, equals, rfl, -, -, hnil, hid⟩ := h
  refine ⟨id.getLast hnil, ?_, hid _ (List.getLast_mem hnil)⟩
  rw [← List.append_assoc]
  exact List.mem_getLast?_append_of_mem_getLast? (List.getLast_mem_getLast? hnil)

theorem idValue?_append {gap tag id rest : List Char} (hgap : AllWsp gap) (htag : IdForm tag id)
    (hrest : ∀ c ∈ rest.head?, isTokenChar c = false) :
    idValue? (gap ++ (tag ++ rest)) = some id := by
  obtain ⟨name, equals, rfl, hname, ⟨before, after, rfl, hbefore, hafter⟩, hnil, hid⟩ := htag
  obtain ⟨i, d, hchars, hi, -⟩ := hname.pair
  have hiWsp : isWsp i = false := isWsp_of_isIdChar (isIdChar_of_sameLetter (by decide) hi)
  obtain ⟨first, others, rfl⟩ := List.exists_cons_of_ne_nil hnil
  have hfront : (gap ++ (name ++ ((before ++ '=' :: after) ++ first :: others) ++ rest)).dropWhile
      isWsp = name ++ (before ++ '=' :: (after ++ (first :: others ++ rest))) := by
    rw [List.dropWhile_append_of_pos hgap, hchars]
    simp only [List.cons_append, List.nil_append, List.append_assoc]
    exact List.dropWhile_cons_of_neg (by simp [hiWsp])
  have hequals : (before ++ '=' :: (after ++ (first :: others ++ rest))).dropWhile isWsp =
      '=' :: (after ++ (first :: others ++ rest)) := by
    rw [List.dropWhile_append_of_pos hbefore, List.dropWhile_cons_of_neg (by decide)]
  have hvalue : (after ++ (first :: others ++ rest)).dropWhile isWsp = first :: others ++ rest := by
    rw [List.dropWhile_append_of_pos hafter, List.cons_append, List.dropWhile_cons_of_neg]
    rw [isWsp_of_isIdChar (hid first List.mem_cons_self)]
    exact Bool.false_ne_true
  have htake : (first :: others ++ rest).takeWhile isTokenChar = first :: others :=
    takeWhile_append_of_neg (fun c hc => isTokenChar_of_isIdChar (hid c hc)) hrest
  have hletters : dropLetters? ['i', 'd']
      (name ++ (before ++ '=' :: (after ++ (first :: others ++ rest)))) =
      some (before ++ '=' :: (after ++ (first :: others ++ rest))) :=
    dropLetters?_eq_some_iff.mpr ⟨name, rfl, hname⟩
  simp only [idValue?, hfront, hletters, hequals, hvalue, htake]
  rfl

theorem AllBlank.semicolon_notMem {cs : List Char} (h : AllBlank cs) : ';' ∉ cs :=
  fun hmem => absurd (h _ hmem) (by decide)

theorem EqualsForm.semicolon_notMem {cs : List Char} (h : EqualsForm cs) : ';' ∉ cs := by
  obtain ⟨before, after, rfl, hbefore, hafter⟩ := h
  rw [List.mem_append, List.mem_cons]
  rintro (hmem | heq | hmem)
  · exact hbefore.allBlank.semicolon_notMem hmem
  · exact absurd heq (by decide)
  · exact hafter.allBlank.semicolon_notMem hmem

theorem Spells.semicolon_notMem {expected cs : List Char} (h : Spells expected cs)
    (hletters : expected.all (fun e => !sameLetter e ';') = true) : ';' ∉ cs := by
  intro hmem
  obtain ⟨e, he, hsame⟩ := h.of_mem hmem
  have hother := List.all_eq_true.mp hletters e he
  rw [hsame] at hother
  cases hother

theorem IdForm.semicolon_notMem {cs id : List Char} (h : IdForm cs id) : ';' ∉ cs := by
  obtain ⟨name, equals, rfl, hname, hequals, -, hid⟩ := h
  simp only [List.mem_append]
  rintro (hmem | hmem | hmem)
  · exact hname.semicolon_notMem (by decide) hmem
  · exact hequals.semicolon_notMem hmem
  · exact absurd (hid _ hmem) (by decide)

theorem VersionForm.spec {cs : List Char} (h : VersionForm cs) :
    ∃ v init, cs = v :: (init ++ [';']) ∧ sameLetter 'v' v = true ∧ ';' ∉ v :: init := by
  obtain ⟨name, equals, value, blanks, rfl, hname, hequals, hvalue, hblanks⟩ := h
  obtain ⟨v, rfl, hv⟩ := hname.singleton
  refine ⟨v, equals ++ (value ++ blanks), by simp, hv, ?_⟩
  rw [← List.singleton_append]
  simp only [List.mem_append]
  rintro (hmem | hmem | hmem | hmem)
  · exact hname.semicolon_notMem (by decide) hmem
  · exact hequals.semicolon_notMem hmem
  · exact hvalue.semicolon_notMem (by decide) hmem
  · exact hblanks.allBlank.semicolon_notMem hmem

theorem AllBlank.not_isTokenChar {cs : List Char} (h : AllBlank cs) :
    ∀ c ∈ cs, isTokenChar c = false := by
  intro c hc
  rw [isTokenChar, h c hc, Bool.not_true, Bool.and_false]

theorem AllBlank.laterIdValue? {cs : List Char} (h : AllBlank cs) : laterIdValue? cs = none := by
  rw [← List.append_nil cs, laterIdValue?_append h.semicolon_notMem]
  rfl

theorem EndingForm.not_isTokenChar {ending trail : List Char} (h : EndingForm ending)
    (htrail : AllBlank trail) : ∀ c ∈ (ending ++ trail).head?, isTokenChar c = false := by
  intro c hc
  rcases h with rfl | ⟨blanks, hblanks, rfl⟩
  · exact htrail.not_isTokenChar c (List.mem_of_mem_head? hc)
  · cases blanks with
    | nil =>
        obtain rfl : ';' = c := Option.some.inj hc
        decide
    | cons b blanks =>
        obtain rfl : b = c := Option.some.inj hc
        exact hblanks.not_isTokenChar b List.mem_cons_self

theorem EndingForm.laterIdValue? {ending trail : List Char} (h : EndingForm ending)
    (htrail : AllBlank trail) : laterIdValue? (ending ++ trail) = none := by
  rcases h with rfl | ⟨blanks, hblanks, rfl⟩
  · exact htrail.laterIdValue?
  · have hnone : idValue? trail = none := by
      rw [← List.append_nil trail]
      exact idValue?_of_allBlank htrail fun _ => nofun
    rw [List.append_assoc, laterIdValue?_append hblanks.semicolon_notMem]
    simp only [List.singleton_append, Record.laterIdValue?, beq_self_eq_true, if_true, hnone]
    exact htrail.laterIdValue?

-- The white space behind the version.
def versionGap (text : String) : List Char :=
  (((unquote text.toList).dropWhile (· != ';')).drop 1).takeWhile isBlank

theorem notMem_of_dropWhile {cs rest : List Char} (h : ';' ∉ cs) :
    (cs ++ ';' :: rest).dropWhile (· != ';') = ';' :: rest := by
  rw [List.dropWhile_append_of_pos, List.dropWhile_cons_of_neg (by decide)]
  rintro c hc
  rw [bne_iff_ne]
  rintro rfl
  exact h hc

theorem Form.versionGap_eq {text : String} {gap id : List Char}
    (h : Form (unquote text.toList) gap id) : versionGap text = gap := by
  obtain ⟨hgap, lead, version, tag, ending, trail, htext, hlead, hversion, htag, -, -⟩ := h
  obtain ⟨v, init, rfl, -, hinit⟩ := hversion.spec
  obtain ⟨i, rest, rfl, hi⟩ := htag.cons
  have hsplit : unquote text.toList = (lead ++ v :: init) ++ ';' ::
      (gap ++ (i :: (rest ++ (ending ++ trail)))) := by
    rw [htext]
    simp
  have hfront : ';' ∉ lead ++ v :: init := by
    rw [List.mem_append, not_or]
    exact ⟨hlead.semicolon_notMem, hinit⟩
  rw [versionGap, hsplit, notMem_of_dropWhile hfront, List.drop_one, List.tail_cons]
  refine takeWhile_append_of_neg hgap ?_
  rintro _ ⟨⟩
  exact isBlank_of_isIdChar hi

theorem ne_quote_of_isIdChar {c : Char} (h : isIdChar c = true) : (c == '"') = false := by
  rw [beq_eq_false_iff_ne]
  rintro rfl
  exact absurd h (by decide)

theorem IdForm.last {tag id ending : List Char} (htag : IdForm tag id) (hending : EndingForm ending)
    (front : List Char) :
    ∃ c ∈ (front ++ tag ++ ending).getLast?, isBlank c = false ∧ (c == '"') = false := by
  rcases hending with rfl | ⟨blanks, -, rfl⟩
  · obtain ⟨c, hc, hid⟩ := htag.getLast?
    refine ⟨c, ?_, isBlank_of_isIdChar hid, ne_quote_of_isIdChar hid⟩
    rw [List.append_nil]
    exact List.mem_getLast?_append_of_mem_getLast? hc
  · refine ⟨';', ?_, by decide, by decide⟩
    rw [← List.append_assoc]
    exact List.mem_getLast?_append_of_mem_getLast? rfl

-- Behind the version an id is found if nothing but blanks stands before it.
theorem IdForm.laterIdValue? {gap tag id ending trail : List Char} (htag : IdForm tag id)
    (hgap : AllBlank gap) (hending : EndingForm ending) (htrail : AllBlank trail) :
    laterIdValue? (';' :: (gap ++ (tag ++ (ending ++ trail)))) =
      if gap.all isWsp then some id else none := by
  split
  · rename_i hwsp
    have hvalue : idValue? (gap ++ (tag ++ (ending ++ trail))) = some id :=
      idValue?_append (List.all_eq_true.mp hwsp) htag (hending.not_isTokenChar htrail)
    simp only [Record.laterIdValue?, beq_self_eq_true, if_true, hvalue]
  · rename_i hwhite
    have hvalue : idValue? (gap ++ (tag ++ (ending ++ trail))) = none :=
      idValue?_of_allBlank hgap fun hwsp => absurd hwsp hwhite
    have hnone : Record.laterIdValue? (gap ++ (tag ++ (ending ++ trail))) = none := by
      rw [laterIdValue?_append hgap.semicolon_notMem, laterIdValue?_append htag.semicolon_notMem]
      exact hending.laterIdValue? htrail
    simp only [Record.laterIdValue?, beq_self_eq_true, if_true, hvalue, hnone]

-- Of a text with one id the token is the id only if the white space behind the version is blanks.
theorem Form.tokenChars_eq {cs gap id : List Char} (h : Form (unquote cs) gap id) :
    tokenChars cs = if gap.all isWsp then id else unquote (trim cs) := by
  obtain ⟨hgap, lead, version, tag, ending, trail, htext, hlead, hversion, htag, hending,
    htrail⟩ := h
  obtain ⟨v, init, rfl, hv, hinit⟩ := hversion.spec
  have hidChar : isIdChar v = true := isIdChar_of_sameLetter (by decide) hv
  have hcore : unquote cs = lead ++ (v :: (init ++ [';']) ++ gap ++ tag ++ ending) ++ trail := by
    simpa using htext
  obtain ⟨lead', trail', htrim, hlead', htrail'⟩ := unquote_trim hcore hlead htrail
    ⟨v, rfl, isBlank_of_isIdChar hidChar, ne_quote_of_isIdChar hidChar⟩ (htag.last hending _)
  have hfirst : idValue? (unquote (trim cs)) = none := by
    have hassoc : lead' ++ (v :: (init ++ [';']) ++ gap ++ tag ++ ending) ++ trail' =
        lead' ++ v :: (init ++ [';'] ++ gap ++ tag ++ ending ++ trail') := by
      simp
    rw [htrim, hassoc]
    refine idValue?_of_allBlank hlead' fun _ => ?_
    rintro _ ⟨⟩
    refine ⟨isWsp_of_isIdChar hidChar, ?_⟩
    rw [sameLetter] at hv ⊢
    rw [← beq_iff_eq.mp hv]
    decide
  have hlater : laterIdValue? (unquote (trim cs)) = if gap.all isWsp then some id else none := by
    have hsplit : unquote (trim cs) = (lead' ++ v :: init) ++
        ';' :: (gap ++ (tag ++ (ending ++ trail'))) := by
      rw [htrim]
      simp
    rw [hsplit, laterIdValue?_append, htag.laterIdValue? hgap hending htrail']
    rw [List.mem_append, not_or]
    exact ⟨hlead'.semicolon_notMem, hinit⟩
  simp only [tokenChars, hfirst, hlater]
  split
  · rfl
  · rfl

theorem token_eq_of_form {text : String} {gap id : List Char}
    (h : Form (unquote text.toList) gap id) (domain : Option String) :
    token ⟨domain, text⟩ = if (versionGap text).all isWsp then String.ofList id
      else String.ofList (unquote (trim text.toList)) := by
  rw [token, onString, h.tokenChars_eq, h.versionGap_eq]
  split
  · rfl
  · rfl

end Tokens

-- The id that is read of a record is what tells its generations apart if the white space behind its
-- version is blanks. Behind other white space the id is read, but not found, and the whole text
-- counts.
theorem token_of_parse {text other : String} {parsed parsed' : Parsed}
    (h : parse text = .ok parsed) (h' : parse other = .ok parsed') :
    ∃ id id', parsed.tags.lookup "id" = some id ∧ parsed'.tags.lookup "id" = some id' ∧
      (∀ domain, token ⟨domain, text⟩ = if (versionGap text).all isWsp then id
        else String.ofList (unquote (trim text.toList))) ∧
      ((versionGap text).all isWsp = true → (versionGap other).all isWsp = true →
        ∀ domain domain', (token ⟨domain, text⟩ = token ⟨domain', other⟩ ↔ id = id') ∧
          ∀ (p : Policy) (now : Int), p.record = some ⟨domain', other⟩ →
            (Store.isStale p (token ⟨domain, text⟩) now = true ↔
              p.isExpired now = true ∨ id ≠ id')) := by
  obtain ⟨gap, id, hid, hform⟩ := form_of_parse h
  obtain ⟨gap', id', hid', hform'⟩ := form_of_parse h'
  have htoken := token_eq_of_form hform
  have htoken' := token_eq_of_form hform'
  rw [String.ofList_toList] at htoken htoken'
  refine ⟨id, id', hid, hid', htoken, fun hplain hplain' domain domain' => ?_⟩
  have hsame : token ⟨domain, text⟩ = token ⟨domain', other⟩ ↔ id = id' := by
    rw [htoken, htoken', if_pos hplain, if_pos hplain']
  refine ⟨hsame, fun p now hrecord => ?_⟩
  rw [Store.isStale, hrecord, Bool.or_eq_true, Option.all_some, bne_iff_ne, ne_comm, Ne, hsame]

-- A line end may stand behind the version of a record, and then its id is not found. A blank there
-- does no harm.
theorem lineEnd_wholeText :
    let text := "v=STSv1;\nid=20240101;"
    (∃ parsed, parse text = .ok parsed ∧ parsed.tags.lookup "id" = some "20240101") ∧
      token ⟨some "example.com", text⟩ = text ∧
      token ⟨some "example.com", "v=STSv1; id=20240101;"⟩ = "20240101" ∧
      token ⟨some "example.com", "v=STSv1; id=20240101;"⟩ =
        token ⟨some "example.com", "V = STSv1;ID=20240101"⟩ := by
  intro text
  have hline : parse text = .ok ⟨[("v", "STSv1"), ("id", "20240101")], []⟩ := by
    decide
  have hblank : parse "v=STSv1; id=20240101;" =
      .ok ⟨[("v", "STSv1"), ("id", "20240101")], []⟩ := by
    decide
  have htight : parse "V = STSv1;ID=20240101" =
      .ok ⟨[("v", "STSv1"), ("id", "20240101")], []⟩ := by
    decide
  obtain ⟨id, _, hid, -, htoken, -⟩ := token_of_parse hline hline
  obtain ⟨id', id'', hid', hid'', htoken', hboth⟩ := token_of_parse hblank htight
  refine ⟨⟨_, hline, rfl⟩, ?_, ?_, ?_⟩
  · rw [htoken, if_neg (by decide)]
    decide
  · rw [htoken', if_pos (by decide)]
    exact (Option.some.inj hid').symm
  · refine (hboth (by decide) (by decide) _ _).1.mpr ?_
    exact Option.some.inj (hid'.symm.trans hid'')

end StrictTransport.Record
