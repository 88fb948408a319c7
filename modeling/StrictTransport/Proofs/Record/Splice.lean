import StrictTransport.Proofs.Record.Identity
import StrictTransport.Proofs.Record.Lookup

namespace StrictTransport.Record

open Text

section Semicolon

theorem dropLetters?_append_semicolon {expected : List Char}
    (h : expected.all (fun e => !sameLetter e ';') = true) (front back : List Char) :
    dropLetters? expected (front ++ ';' :: back) =
      (dropLetters? expected front).map (· ++ ';' :: back) := by
  induction expected generalizing front with
  | nil => rfl
  | cons e expected ih =>
      rw [List.all_cons, Bool.and_eq_true, Bool.not_eq_true'] at h
      obtain ⟨he, hexpected⟩ := h
      cases front with
      | nil => simp [dropLetters?, he]
      | cons c front =>
          rw [List.cons_append, dropLetters?, dropLetters?]
          split
          · exact ih hexpected front
          · rfl

theorem dropWhile_append_of_stop {p : Char → Bool} {c : Char} (h : p c = false)
    (front back : List Char) :
    (front ++ c :: back).dropWhile p = front.dropWhile p ++ c :: back := by
  rw [List.dropWhile_append]
  split
  · rename_i hempty
    rw [List.isEmpty_iff.mp hempty,
      List.dropWhile_cons_of_neg (by rw [h]; exact Bool.false_ne_true)]
    rfl
  · rfl

theorem takeWhile_append_of_stop {p : Char → Bool} {c : Char} (h : p c = false)
    (front back : List Char) : (front ++ c :: back).takeWhile p = front.takeWhile p := by
  induction front with
  | nil => exact List.takeWhile_cons_of_neg (by rw [h]; exact Bool.false_ne_true)
  | cons d front ih =>
      rw [List.cons_append, List.takeWhile_cons, List.takeWhile_cons, ih]

-- A semicolon ends all that an id can be made of.
theorem idValue?_append_semicolon (front back : List Char) :
    idValue? (front ++ ';' :: back) = idValue? front := by
  have hwsp : isWsp ';' = false := by decide
  have hletters : ['i', 'd'].all (fun e => !sameLetter e ';') = true := by decide
  simp only [idValue?, dropWhile_append_of_stop hwsp, dropLetters?_append_semicolon hletters]
  cases dropLetters? ['i', 'd'] (front.dropWhile isWsp) with
  | none => rfl
  | some rest =>
      simp only [Option.map_some, dropWhile_append_of_stop hwsp]
      cases rest.dropWhile isWsp with
      | nil => rfl
      | cons c rest =>
          by_cases hequals : c = '='
          · subst hequals
            have hvalue : isTokenChar ';' = false := by decide
            simp only [List.cons_append, dropWhile_append_of_stop hwsp,
              takeWhile_append_of_stop hvalue]
          · simp [hequals]

theorem laterIdValue?_append_semicolon (front back : List Char) :
    laterIdValue? (front ++ ';' :: back) =
      (laterIdValue? front).or (laterIdValue? (';' :: back)) := by
  induction front with
  | nil => rfl
  | cons c front ih =>
      rw [List.cons_append, laterIdValue?, idValue?_append_semicolon, ih]
      conv_rhs => rw [laterIdValue?]
      split
      · rfl
      · rfl

theorem isTokenChar_of_mem_idValue? {cs value : List Char} (h : idValue? cs = some value) :
    ∀ c ∈ value, isTokenChar c = true := by
  simp only [idValue?] at h
  split at h
  · cases h
  · split at h
    · split at h
      · cases h
      · obtain rfl := Option.some.inj h
        exact fun c hc => List.mem_takeWhile_imp hc
    · cases h

theorem isTokenChar_of_mem_laterIdValue? {cs value : List Char}
    (h : laterIdValue? cs = some value) : ∀ c ∈ value, isTokenChar c = true := by
  induction cs with
  | nil => cases h
  | cons d rest ih =>
      rw [laterIdValue?] at h
      split at h
      · rename_i found hfound
        obtain rfl := Option.some.inj h
        split at hfound
        · exact isTokenChar_of_mem_idValue? hfound
        · cases hfound
      · exact ih h

end Semicolon

theorem isBlank_of_isTokenChar {c : Char} (h : isTokenChar c = true) : isBlank c = false := by
  rw [isTokenChar, Bool.and_eq_true, Bool.not_eq_true'] at h
  exact h.2

theorem idValue?_spliced {token : List Char} (h : ∃ c ∈ token.head?, isTokenChar c = true) :
    idValue? (' ' :: 'i' :: 'd' :: '=' :: (token ++ [';'])) =
      some (token.takeWhile isTokenChar) := by
  obtain ⟨c, hc, htoken⟩ := h
  obtain ⟨rest, rfl⟩ := List.head?_eq_some_iff.mp hc
  have hwsp : isWsp c = false := by
    rw [← Bool.not_eq_true]
    intro hwsp
    have hblank := isBlank_of_isTokenChar htoken
    rw [isBlank_of_isWsp hwsp] at hblank
    cases hblank
  have hsame : sameLetter 'i' 'i' = true ∧ sameLetter 'd' 'd' = true := by decide
  have htake : (c :: rest ++ [';']).takeWhile isTokenChar = (c :: rest).takeWhile isTokenChar :=
    takeWhile_append_of_stop (by decide) _ _
  have hdrop : (c :: rest ++ [';']).dropWhile isWsp = c :: rest ++ [';'] :=
    List.dropWhile_cons_of_neg (by rw [hwsp]; exact Bool.false_ne_true)
  have hspace : (' ' :: 'i' :: 'd' :: '=' :: (c :: rest ++ [';'])).dropWhile isWsp =
      'i' :: 'd' :: '=' :: (c :: rest ++ [';']) := rfl
  have hequals : ('=' :: (c :: rest ++ [';'])).dropWhile isWsp = '=' :: (c :: rest ++ [';']) := rfl
  simp only [idValue?, hspace, dropLetters?, hsame, if_true, hequals, hdrop, htake]
  rw [List.takeWhile_cons_of_pos htoken]
  rfl

theorem unquote_trim_of_ends (cs : List Char) :
    unquote (trim ('v' :: (cs ++ [';']))) = 'v' :: (cs ++ [';']) := by
  have hends : ∀ p : Char → Bool, p 'v' = false → p ';' = false →
      trimWhile p ('v' :: (cs ++ [';'])) = 'v' :: (cs ++ [';']) := by
    intro p hv hsemicolon
    have hlast : ';' ∈ ('v' :: cs ++ [';']).getLast? :=
      List.mem_getLast?_append_of_mem_getLast? rfl
    have hkept := trimWhile_append_of_ends p 'v' ';' ('v' :: cs ++ [';']) [] rfl hv hlast
      hsemicolon (by simp)
    rwa [List.append_nil] at hkept
  rw [trim, hends isBlank (by decide) (by decide), unquote,
    hends (· == '"') (by decide) (by decide)]

-- The characters of a record that is put together of a version and a token.
def spliced (version token : List Char) : List Char :=
  'v' :: '=' :: (version ++ ';' :: ' ' :: 'i' :: 'd' :: '=' :: (token ++ [';']))

theorem toList_splice (version token : String) :
    s!"v={version}; id={token};".toList = spliced version.toList token.toList := by
  simp only [String.toList_append, List.append_assoc]
  rfl

theorem spliced_eq_append (version token : List Char) :
    ∃ inner, spliced version token = 'v' :: (inner ++ [';']) :=
  ⟨'=' :: (version ++ ';' :: ' ' :: 'i' :: 'd' :: '=' :: token), by simp [spliced]⟩

-- Nothing can be trimmed from such a record, and it has no id tag at its front.
theorem tokenChars_spliced (version token : List Char) :
    tokenChars (spliced version token) =
      (laterIdValue? (spliced version token)).getD (spliced version token) := by
  obtain ⟨inner, hinner⟩ := spliced_eq_append version token
  have hfirst : idValue? ('v' :: (inner ++ [';'])) = none := by
    refine idValue?_eq_none ?_
    rintro _ ⟨⟩
    decide
  rw [hinner]
  simp only [tokenChars, unquote_trim_of_ends, hfirst]

-- An id tag in the version comes first.
theorem laterIdValue?_spliced (version token : List Char) :
    laterIdValue? (spliced version token) = (laterIdValue? version).or
      (laterIdValue? (';' :: ' ' :: 'i' :: 'd' :: '=' :: (token ++ [';']))) := by
  have hversion := laterIdValue?_append (show ';' ∉ ['v', '='] by decide)
    (version ++ ';' :: ' ' :: 'i' :: 'd' :: '=' :: (token ++ [';']))
  rw [laterIdValue?_append_semicolon] at hversion
  exact hversion

theorem tokenChars_splice {version token : List Char}
    (htoken : ∃ c ∈ token.head?, isTokenChar c = true) :
    tokenChars (spliced version token) =
      (laterIdValue? version).getD (token.takeWhile isTokenChar) := by
  have hlater : laterIdValue? (';' :: ' ' :: 'i' :: 'd' :: '=' :: (token ++ [';'])) =
      some (token.takeWhile isTokenChar) := by
    simp only [laterIdValue?, beq_self_eq_true, if_true, idValue?_spliced htoken]
  rw [tokenChars_spliced, laterIdValue?_spliced, hlater]
  cases laterIdValue? version with
  | none => rfl
  | some value => rfl

theorem token_splice {version token : String}
    (htoken : ∃ c ∈ token.toList.head?, isTokenChar c = true) (domain : Option String) :
    Record.token ⟨domain, s!"v={version}; id={token};"⟩ =
      String.ofList ((laterIdValue? version.toList).getD
        (token.toList.takeWhile isTokenChar)) := by
  rw [Record.token, onString, toList_splice, tokenChars_splice htoken]

theorem announces_of_select {texts : List String} {text : String}
    (h : select texts = .ok text) : announces text = true := by
  unfold select at h
  split at h
  · cases h
  · rename_i found hfound
    cases h
    exact (List.mem_filter.mp (hfound ▸ List.mem_cons_self : text ∈ texts.filter announces)).2
  · cases h

theorem announces_of_search {σ : Type} {o : Outside σ} {options : Resolver.Options}
    {domain text : String} {w w' : World σ}
    (h : search o options domain w = (.ok text, w')) : announces text = true := by
  simp only [search] at h
  split at h
  · exact announces_of_select (Prod.mk.inj h).1
  · split at h
    · cases h
    · cases h

-- A token is an id or, if the id is not found, the whole text of the record.
structure TokenForm (record : Record) : Prop where
  head : ∃ c ∈ record.token.toList.head?, isTokenChar c = true
  plain : (versionGap record.id).all isWsp = true → ∀ c ∈ record.token.toList, isIdChar c = true
  whole : (versionGap record.id).all isWsp = false → ';' ∈ record.token.toList

theorem tokenForm_of_parse {record : Record} {parsed : Parsed}
    (hread : parse record.id = .ok parsed) (hannounced : announces record.id = true) :
    TokenForm record := by
  obtain ⟨gap, id, -, hform⟩ := form_of_parse hread
  have htoken : record.token = _ := token_eq_of_form hform record.domain
  obtain ⟨-, lead, version, tag, ending, trail, htext, -, hversion, hid, -, -⟩ := hform
  obtain ⟨_, _, -, -, -, hnil, hchars⟩ := hid
  refine ⟨?_, fun hplain => ?_, fun hwhole => ?_⟩
  · rw [htoken]
    split
    · obtain ⟨c, others, hcons⟩ := List.exists_cons_of_ne_nil hnil
      refine ⟨c, by rw [String.toList_ofList, hcons]; rfl, isTokenChar_of_isIdChar (hchars c ?_)⟩
      rw [hcons]
      exact List.mem_cons_self
    · obtain ⟨rest, hrest⟩ : ∃ rest, record.id.toList = 'v' :: rest := by
        obtain ⟨rest, heq⟩ := List.isPrefixOf_iff_prefix.mp hannounced
        exact ⟨_, heq.symm⟩
      have htrim := head?_trimWhile (show isBlank 'v' = false by decide) rest
      rw [← hrest] at htrim
      obtain ⟨others, hothers⟩ := List.head?_eq_some_iff.mp htrim
      refine ⟨'v', ?_, by decide⟩
      rw [String.toList_ofList, trim, hothers]
      exact head?_trimWhile (by decide) others
  · rw [htoken, if_pos hplain, String.ofList_toList]
    exact hchars
  · rw [htoken, if_neg (by rw [hwhole]; exact Bool.false_ne_true), String.toList_ofList]
    obtain ⟨v, init, rfl, -, -⟩ := hversion.spec
    have hmem : ';' ∈ record.id.toList := by
      refine mem_of_mem_trimWhile (p := (· == '"')) (show ';' ∈ unquote record.id.toList from ?_)
      rw [htext]
      simp
    exact mem_trimWhile (by decide) (mem_trimWhile (by decide) hmem)

end StrictTransport.Record
