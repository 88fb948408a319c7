import StrictTransport.Proofs.Document.Pairs
import StrictTransport.Proofs.Domain.Line
import StrictTransport.Proofs.Policy.Restore
import StrictTransport.Proofs.Record.Splice

namespace StrictTransport.Policy

open Document Text

-- A policy from a response to a request for a record, valid or not.
structure Sourced (p : Policy) (record : Record) (domain : String) : Prop where
  texts : ∀ text, p.version = some text ∨ text ∈ p.masks → Bare text ∧ '\n' ∉ text.toList
  time : 0 < p.fetchTime
  recorded : p.record = some record
  named : record.domain = some domain
  legal : Domain.Legal (Domain.normalizeChars domain.toList)
  token : ':' ∉ record.token.toList

theorem sourced_ofResponse {limits : Limits} {now : Int} {response? : Option Https.Response}
    {record : Record} {domain : String} {parsed : Record.Parsed} (hnow : 0 < now)
    (hnamed : record.domain = some domain)
    (hlegal : Domain.Legal (Domain.normalizeChars domain.toList))
    (hread : Record.parse record.id = .ok parsed) :
    Sourced (ofResponse limits now response? (some record)).1 record domain := by
  rw [ofResponse_fst]
  exact ⟨texts_assemble _ _ _ _ fun _ hpair => bare_of_mem_readResponse hpair, hnow, rfl, hnamed, hlegal,
    Record.colon_notMem_token hread⟩

theorem colon_notMem_toString (t : Int) : ':' ∉ (toString t).toList := by
  intro hmem
  rcases isAsciiDigit_of_mem_toString hmem with hdigit | hhyphen
  · exact absurd hdigit (by decide)
  · exact absurd hhyphen (by decide)

section Reread

variable {limits : Limits} {p : Policy} {record : Record} {domain : String}

-- What the lines of one entry are read as is that entry's, if anything.
def Single (limits : Limits) (pair : Pair) : Prop :=
  reread limits pair = [] ∨ ∃ value, reread limits pair = [(pair.1, value)]

theorem Sourced.single (h : Sourced p record domain) :
    ∀ pair ∈ retold p domain record.token, Single limits pair := by
  have hbare : ∀ {key value : String}, KeyText key → Bare value ∧ '\n' ∉ value.toList →
      Single limits (key, value) := fun hkey hvalue =>
    (reread_of_bare _ hkey hvalue.1 hvalue.2).imp_right fun heq => ⟨_, heq⟩
  have hplain : ∀ {key value : String}, KeyText key → ':' ∉ value.toList →
      Single limits (key, value) := fun hkey hvalue =>
    (reread_of_colon_notMem _ hkey hvalue).imp_right fun ⟨_, _, _, heq⟩ => ⟨_, heq⟩
  intro pair hpair
  rcases List.mem_append.mp hpair with htold | htoken
  · rcases mem_told htold with ⟨text, htext, rfl | rfl⟩ | rfl | rfl | rfl | rfl
    · exact hbare (keyText_of_told _ (by simp)) (h.texts text htext)
    · exact hbare (keyText_of_told _ (by simp)) (h.texts text htext)
    · exact hbare (keyText_of_told _ (by simp)) (bare_modeName p.mode)
    · exact hplain (keyText_of_told _ (by simp)) (colon_notMem_toString _)
    · exact hplain (keyText_of_told _ (by simp)) (colon_notMem_toString _)
    · exact hplain (keyText_of_told _ (by simp)) (Domain.colon_notMem_of_legal h.legal)
  · rw [List.mem_singleton.mp htoken]
    exact hplain (keyText_of_told _ (by simp)) h.token

theorem values_flatMap_reread {pairs : List Pair} (h : ∀ pair ∈ pairs, Single limits pair)
    (key : String) :
    values key (pairs.flatMap (reread limits)) =
      (values key pairs).flatMap fun value => values key (reread limits (key, value)) := by
  induction pairs with
  | nil => rfl
  | cons pair pairs ih =>
      obtain ⟨hpair, hpairs⟩ := List.forall_mem_cons.mp h
      obtain ⟨other, value⟩ := pair
      have hcons : values key ((other, value) :: pairs) =
          values key [(other, value)] ++ values key pairs :=
        values_append key [(other, value)] pairs
      rw [List.flatMap_cons, values_append, ih hpairs, hcons, values_singleton]
      by_cases hkey : other = key
      · subst hkey
        rw [if_pos rfl]
        rfl
      · rw [if_neg hkey]
        rcases hpair with hnil | ⟨found, hone⟩
        · rw [hnil]
          rfl
        · rw [hone, values_singleton, if_neg hkey]
          rfl

theorem Sourced.values_parse (h : Sourced p record domain) (key : String) :
    values key (Document.parse limits (Utf8.encode p.extended.toList)).1 =
      (values key (retold p domain record.token)).flatMap
        fun value => values key (reread limits (key, value)) := by
  rw [encode_extended_eq_document h.recorded h.named,
    fst_parse_document limits (by simp [retold]), values_flatMap_reread h.single]

theorem Sourced.version_parse (h : Sourced p record domain) {version : String}
    (hlast : lastValue? "version" (Document.parse limits (Utf8.encode p.extended.toList)).1 =
      some version) : p.version = some version := by
  rw [lastValue?, h.values_parse, version_retold] at hlast
  cases hversion : p.version with
  | none =>
      rw [hversion] at hlast
      cases hlast
  | some text =>
      obtain ⟨hbare, hlf⟩ := h.texts text (.inl hversion)
      rw [hversion, Option.toList_some, List.flatMap_singleton] at hlast
      rcases reread_of_bare limits (keyText_of_told "version" (by simp)) hbare hlf
        with hnil | hone
      · rw [hnil] at hlast
        cases hlast
      · rw [hone, values_singleton, if_pos rfl] at hlast
        exact hlast

theorem Sourced.fetchTime_parse (h : Sourced p record domain)
    (hpos : 0 < toldFetchTime (Document.parse limits (Utf8.encode p.extended.toList)).1) :
    toldFetchTime (Document.parse limits (Utf8.encode p.extended.toList)).1 = p.fetchTime := by
  have hvalues : values "fetch_time" (Document.parse limits (Utf8.encode p.extended.toList)).1 =
      values "fetch_time" (reread limits ("fetch_time", toString p.fetchTime)) := by
    rw [h.values_parse, fetchTime_retold, List.flatMap_singleton]
  rcases reread_of_bare limits (keyText_of_told "fetch_time" (by simp))
    (bare_toString _).1 (bare_toString _).2 with hnil | hone
  · rw [hnil] at hvalues
    rw [toldFetchTime, fetchTimes, hvalues] at hpos
    exact absurd hpos (by decide)
  · rw [hone, values_singleton, if_pos rfl] at hvalues
    rw [toldFetchTime_of_values hvalues (Int.le_of_lt h.time)] at hpos ⊢
    by_cases hlt : p.fetchTime < 10 ^ Integer.digitLimit
    · rw [if_pos hlt]
    · rw [if_neg hlt] at hpos
      exact absurd hpos (by decide)

-- The domain that is told is the normal form of the record's own, and stays so.
theorem Sourced.domain_parse (h : Sourced p record domain) {registrable : List String → Bool}
    {told : String}
    (htold : toldDomain? registrable
      (Document.parse limits (Utf8.encode p.extended.toList)).1 = some told) :
    told = Domain.normalize domain ∧ Domain.normalize told = told := by
  rw [toldDomain?, h.values_parse, domain_retold, List.flatMap_singleton] at htold
  rcases reread_of_colon_notMem limits (keyText_of_told "domain" (by simp))
    (Domain.colon_notMem_of_legal h.legal) with hnil | ⟨first, htext, hlf, hone⟩
  · rw [hnil] at htold
    cases htold
  · rw [hone, values_singleton, if_pos rfl, List.filter_cons] at htold
    split at htold
    · rename_i hvalid
      obtain rfl : Domain.normalize (String.ofList first) = told := Option.some.inj htold
      have hchars : (Domain.normalize (String.ofList first)).toList =
          Domain.normalizeChars first := by
        rw [Domain.normalize, onString, String.toList_ofList, String.toList_ofList]
      have hline : Domain.normalizeChars domain.toList = Domain.normalizeChars first :=
        Domain.normalizeChars_of_firstValue htext (hchars ▸ Domain.legal_of_isValid hvalid) h.legal
      have htidy := Domain.tidy_of_isValid_of_line hvalid (by rwa [String.toList_ofList])
      exact ⟨by rw [Domain.normalize, Domain.normalize, onString, onString, hline,
        String.toList_ofList], htidy.normalize_eq⟩
    · cases htold

-- The token that is told begins as the record's, and is that token if it is an id.
theorem Sourced.token_parse (h : Sourced p record domain) (hform : Record.TokenForm record)
    {told : String}
    (htold : toldToken? (Document.parse limits (Utf8.encode p.extended.toList)).1 = some told) :
    (∃ c ∈ told.toList.head?, Record.isTokenChar c = true) ∧
      ((Record.versionGap record.id).all isWsp = true → told = record.token) := by
  rw [toldToken?, h.values_parse, recordId_retold, List.flatMap_singleton] at htold
  rcases reread_of_colon_notMem limits (keyText_of_told "record_id" (by simp))
    h.token with hnil | ⟨first, htext, -, hone⟩
  · rw [hnil] at htold
    cases htold
  · rw [hone, values_singleton, if_pos rfl, List.map_cons, List.filter_cons] at htold
    split at htold
    · rename_i hne
      obtain rfl : trimmed (String.ofList first) = told := Option.some.inj htold
      have htrimmed : (trimmed (String.ofList first)).toList = trim first := by
        rw [trimmed, onString, String.toList_ofList, String.toList_ofList]
      obtain ⟨c, hc, hcToken⟩ := hform.head
      have hvisible := Record.isBlank_of_isTokenChar hcToken
      have hfirst : first ≠ [] := by
        rintro rfl
        exact absurd hne (by decide)
      obtain ⟨others, rfl⟩ := List.head?_eq_some_iff.mp (htext.head? hfirst hc hvisible)
      refine ⟨⟨c, ?_, hcToken⟩, fun hplain => ?_⟩
      · rw [htrimmed]
        exact head?_trimWhile hvisible others
      · have hwhole : ∀ c ∈ record.token.toList, isBlank c = false :=
          fun c hc => Record.isBlank_of_isIdChar (hform.plain hplain c hc)
        have hsame := htext.eq_of_visible hwhole
        rw [← String.toList_inj, htrimmed, ← hsame, trim_eq_self hwhole]
    · cases htold

theorem Sourced.sameGeneration_iff (h : Sourced p record domain) (hform : Record.TokenForm record)
    {told version token : String} (htold : told = Domain.normalize domain)
    (hsettled : Domain.normalize told = told)
    (hhead : ∃ c ∈ token.toList.head?, Record.isTokenChar c = true)
    (hplain : (Record.versionGap record.id).all isWsp = true → token = record.token) :
    (⟨some told, s!"v={version}; id={token};"⟩ : Record).sameGeneration p.record = true ↔
      (Record.versionGap record.id).all isWsp = true ∧
        ∀ id, Record.laterIdValue? version.toList = some id → String.ofList id = record.token := by
  have hsame : (⟨some told, s!"v={version}; id={token};"⟩ : Record).sameGeneration p.record = true ↔
      String.ofList ((Record.laterIdValue? version.toList).getD
        (token.toList.takeWhile Record.isTokenChar)) = record.token := by
    rw [h.recorded, Record.sameGeneration_eq_true_iff, Record.token_splice hhead]
    constructor
    · rintro ⟨_, _, -, -, -, hequal⟩
      exact hequal
    · exact fun hequal => ⟨told, domain, rfl, h.named, by rw [hsettled, htold], hequal⟩
  rw [hsame]
  cases hwhite : (Record.versionGap record.id).all isWsp with
  | false =>
      -- The record's token is its whole text, with the semicolon behind the version.
      refine iff_of_false (fun hequal => ?_) fun hboth => Bool.false_ne_true hboth.1
      have hsemicolon := hform.whole hwhite
      rw [← hequal, String.toList_ofList] at hsemicolon
      have hchar : Record.isTokenChar ';' = true := by
        cases hlater : Record.laterIdValue? version.toList with
        | none =>
            rw [hlater] at hsemicolon
            exact List.mem_takeWhile_imp hsemicolon
        | some id =>
            rw [hlater] at hsemicolon
            exact Record.isTokenChar_of_mem_laterIdValue? hlater _ hsemicolon
      exact absurd hchar (by decide)
  | true =>
      have hkept : token.toList.takeWhile Record.isTokenChar = token.toList := by
        rw [hplain hwhite, List.takeWhile_eq_self_iff]
        exact fun c hc => Record.isTokenChar_of_isIdChar (hform.plain hwhite c hc)
      rw [hkept, hplain hwhite]
      cases Record.laterIdValue? version.toList with
      | none => simp
      | some id => simp

theorem Sourced.reload (h : Sourced p record domain) (hform : Record.TokenForm record)
    {registrable : List String → Bool} {q : Policy}
    (hreload : (ofExtended registrable limits p.extended).1 = .ok q) :
    q.fetchTime = p.fetchTime ∧ ∃ version restored told, p.version = some version ∧
      q.record = some restored ∧ restored.domain = some told ∧
      Domain.normalize told = Domain.normalize domain ∧
      (restored.sameGeneration p.record = true ↔
        (Record.versionGap record.id).all isWsp = true ∧
          ∀ id, Record.laterIdValue? version.toList = some id →
            String.ofList id = record.token) := by
  obtain ⟨r, hr, hq⟩ := (ofExtended_eq_ok_iff registrable limits p.extended q).mp hreload
  obtain ⟨version, told, token, hversion, hdomain, htoken, htime, hrestored⟩ :=
    (toldRecord_eq_ok_iff registrable _ r).mp hr
  obtain ⟨htold, hsettled⟩ := h.domain_parse hdomain
  obtain ⟨hhead, hplain⟩ := h.token_parse hform htoken
  refine ⟨?_, version, r, told, h.version_parse hversion, ?_, ?_, ?_, ?_⟩
  · rw [hq, assemble_fetchTime, h.fetchTime_parse htime]
  · rw [hq, assemble_record]
  · rw [hrestored]
  · rw [hsettled, htold]
  · rw [hrestored]
    exact h.sameGeneration_iff hform htold hsettled hhead hplain

end Reread

end StrictTransport.Policy
