import StrictTransport.Proofs.Document.Pairs
import StrictTransport.Proofs.Domain.Name
import StrictTransport.Proofs.Policy.Extended
import StrictTransport.Proofs.Record.Token

namespace StrictTransport.Policy

open Document Text

-- A policy as it comes from its host: valid, its texts read from lines, its age clamped, and with
-- the record that it was fetched for.
structure Genuine (limits : Limits) (p : Policy) (record : Record) (domain : String) : Prop where
  valid : p.isValid = true
  version : ∃ version, p.version = some version
  texts : ∀ text, p.version = some text ∨ text ∈ p.masks → Bare text ∧ '\n' ∉ text.toList
  age : ∃ age, p.maxAge = clamped limits p.mode age
  time : 0 < p.fetchTime
  recorded : p.record = some record
  named : record.domain = some domain
  tidy : Domain.Tidy domain.toList
  token : ':' ∉ record.token.toList

-- Whether the extended document of a policy can be read back within the limits. The record's token
-- may hold line ends; then only blank lines may follow the first one.
structure Restorable (registrable : List String → Bool) (limits : Limits) (p : Policy)
    (record : Record) (domain : String) : Prop where
  fits : ∀ pair ∈ told p domain, ((lineBytes pair.1 pair.2).length : Int) ≤ limits.lineLength
  name : Domain.isValid registrable domain = true ∧ '\n' ∉ domain.toList
  token : ∃ first, trimmed first ≠ "" ∧
    Document.parse limits (lineBytes "record_id" record.token ++ [cr, lf]) =
      ([("record_id", first)], .empty)
  time : p.fetchTime < 10 ^ Integer.digitLimit

-- What of a policy counts when mail is sent.
structure SameContent (p q : Policy) : Prop where
  version : q.version = p.version
  mode : q.mode = p.mode
  masks : q.masks = p.masks
  maxAge : q.maxAge = p.maxAge
  fetchTime : q.fetchTime = p.fetchTime
  valid : q.isValid = p.isValid
  hosts : ∀ host, q.allows host = p.allows host

theorem allows_congr {p q : Policy} (hmode : q.mode = p.mode) (hmasks : q.masks = p.masks)
    (host : String) : q.allows host = p.allows host := by
  rw [allows, allows, hmode, hmasks]

section Values

variable {pairs : List Pair}

theorem toldFetchTime_of_values {t : Int} (hpairs : values "fetch_time" pairs = [toString t])
    (h : 0 ≤ t) : toldFetchTime pairs = if t < 10 ^ Integer.digitLimit then t else 0 := by
  rw [toldFetchTime, fetchTimes, hpairs]
  by_cases hlt : t < 10 ^ Integer.digitLimit
  · simp only [List.filterMap_cons, Integer.read_toString h, if_pos hlt]
    rfl
  · simp only [List.filterMap_cons, Integer.read_toString h, if_neg hlt]
    rfl

theorem toldDomain?_of_values {domain : String} (registrable : List String → Bool)
    (hpairs : values "domain" pairs = [domain]) :
    toldDomain? registrable pairs =
      if Domain.isValid registrable domain = true then some (Domain.normalize domain)
      else none := by
  rw [toldDomain?, hpairs, List.filter_cons]
  split <;> rfl

theorem toldToken?_of_values {token : String} (hpairs : values "record_id" pairs = [token]) :
    toldToken? pairs = if trimmed token = "" then none else some (trimmed token) := by
  rw [toldToken?, hpairs, List.map_cons, List.filter_cons]
  by_cases h : trimmed token = "" <;> simp [h]

theorem requestedMode_of_values {mode : Mode} (hpairs : values "mode" pairs = [mode.name]) :
    requestedMode pairs = mode := by
  rw [requestedMode, lastValue?, hpairs]
  cases mode <;> decide

theorem requestedAge_of_values {limits : Limits} {age : Int}
    (hpairs : values "max_age" pairs = [toString age]) :
    requestedAge limits pairs = if 0 ≤ age ∧ age < 10 ^ 10 then age else limits.minAge := by
  by_cases h : 0 ≤ age ∧ age < 10 ^ 10
  · rw [if_pos h, requestedAge_eq limits _ (toString age) (by rw [hpairs]; rfl)
      (ageForm_toString h.1 h.2) (bare_toString age).2, decimal_toString h.1]
  · have hform : isAge (toString age) = false := by
      rwa [← Bool.not_eq_true, isAge_iff _ (bare_toString age).2, ageForm_toString_iff]
    rw [if_neg h, requestedAge, lastValue?, hpairs]
    simp only [List.getLast?_singleton, hform, Bool.false_eq_true, if_false]

end Values

section Genuine

variable {limits : Limits} {p : Policy} {record : Record} {domain : String}

theorem bare_domain (h : Domain.Tidy domain.toList) :
    Bare domain ∧ '\r' ∉ domain.toList := by
  obtain ⟨a, ha, hfirst⟩ := h.first
  obtain ⟨b, hb, hlast⟩ := h.last
  refine ⟨bare_of_ends ha hfirst.isBlank hb hlast.isBlank, fun hcr => ?_⟩
  rcases h.chars '\r' hcr with hc | hc | hc
  · exact absurd hc.isBlank (by decide)
  · exact absurd hc (by decide)
  · exact absurd hc (by decide)

theorem bare_modeName (mode : Mode) : Bare mode.name ∧ '\n' ∉ mode.name.toList := by
  cases mode
  · exact ⟨⟨⟨'n', by decide, by decide⟩, 'e', by decide, by decide⟩, by decide⟩
  · exact ⟨⟨⟨'t', by decide, by decide⟩, 'g', by decide, by decide⟩, by decide⟩
  · exact ⟨⟨⟨'e', by decide, by decide⟩, 'e', by decide, by decide⟩, by decide⟩

theorem Genuine.maxAge_pos (h : Genuine limits p record domain) : 0 < p.maxAge :=
  ((isValid_iff p).mp h.valid).2.2.1

theorem mem_told {pair : Pair} (hpair : pair ∈ told p domain) :
    (∃ text, (p.version = some text ∨ text ∈ p.masks) ∧
      (pair = ("version", text) ∨ pair = ("mx", text))) ∨ pair = ("mode", p.mode.name) ∨
      pair = ("max_age", toString p.maxAge) ∨ pair = ("fetch_time", toString p.fetchTime) ∨
      pair = ("domain", domain) := by
  simp only [told, List.mem_append, List.mem_map, Option.mem_toList,
    List.mem_singleton] at hpair
  rcases hpair with (((((⟨text, htext, rfl⟩ | rfl) | ⟨text, htext, rfl⟩) | rfl) | rfl) | rfl)
  · exact .inl ⟨text, .inl htext, .inl rfl⟩
  · exact .inr (.inl rfl)
  · exact .inl ⟨text, .inr htext, .inr rfl⟩
  · exact .inr (.inr (.inl rfl))
  · exact .inr (.inr (.inr (.inl rfl)))
  · exact .inr (.inr (.inr (.inr rfl)))

-- Each pair makes a line, and only the domain's could hold a line feed.
theorem told_of_texts
    (htexts : ∀ text, p.version = some text ∨ text ∈ p.masks → Bare text ∧ '\n' ∉ text.toList)
    (htidy : Domain.Tidy domain.toList) :
    ∀ pair ∈ told p domain, Told pair ∧ (pair ≠ ("domain", domain) → '\n' ∉ pair.2.toList) := by
  have hbare : ∀ {key value : String}, KeyText key → Bare value ∧ '\n' ∉ value.toList →
      Told (key, value) ∧ ((key, value) ≠ ("domain", domain) → '\n' ∉ value.toList) :=
    fun hkey hvalue => ⟨told_of_bare hkey hvalue, fun _ => hvalue.2⟩
  intro pair hpair
  rcases mem_told hpair with ⟨text, htext, rfl | rfl⟩ | rfl | rfl | rfl | rfl
  · exact hbare (keyText_of_told _ (by simp)) (htexts text htext)
  · exact hbare (keyText_of_told _ (by simp)) (htexts text htext)
  · exact hbare (keyText_of_told _ (by simp)) (bare_modeName p.mode)
  · exact hbare (keyText_of_told _ (by simp)) (bare_toString p.maxAge)
  · exact hbare (keyText_of_told _ (by simp)) (bare_toString p.fetchTime)
  · obtain ⟨hdomain, hcr⟩ := bare_domain htidy
    have hkey : KeyText "domain" := keyText_of_told _ (by simp)
    exact ⟨⟨hkey, hdomain, whole_of_notMem hkey (.inl hcr)⟩, fun hne => absurd rfl hne⟩

theorem Genuine.told (h : Genuine limits p record domain) :
    ∀ pair ∈ told p domain, Told pair ∧ (pair ≠ ("domain", domain) → '\n' ∉ pair.2.toList) :=
  told_of_texts h.texts h.tidy

theorem problems_retold (first : String) (hversion : p.version ≠ none) (h : 0 ≤ p.maxAge)
    (hlt : p.maxAge < 10 ^ 10) : problems (retold p domain first) = [] := by
  rw [problems_eq_nil_iff, version_retold, mode_retold, maxAge_retold]
  refine ⟨fun value hvalue => ?_, ?_, List.cons_ne_nil _ _, List.cons_ne_nil _ _⟩
  · rw [List.mem_singleton.mp hvalue]
    exact (isAge_iff _ (bare_toString _).2).mpr (ageForm_toString h hlt)
  · obtain ⟨version, hsome⟩ := Option.ne_none_iff_exists'.mp hversion
    rw [hsome]
    exact List.cons_ne_nil _ _

end Genuine

theorem toldRecord_eq_ok_iff (registrable : List String → Bool) (pairs : List Pair) (r : Record) :
    toldRecord registrable pairs = .ok r ↔
      ∃ v d t, lastValue? "version" pairs = some v ∧ toldDomain? registrable pairs = some d ∧
        toldToken? pairs = some t ∧ 0 < toldFetchTime pairs ∧
        r = ⟨some d, s!"v={v}; id={t};"⟩ := by
  simp only [toldRecord]
  cases lastValue? "version" pairs with
  | none => simp
  | some v =>
      cases toldDomain? registrable pairs with
      | none => simp
      | some d =>
          cases toldToken? pairs with
          | none => simp
          | some t =>
              by_cases ht : toldFetchTime pairs ≤ 0
              · refine iff_of_false (by simp [ht]) ?_
                rintro ⟨_, _, _, -, -, -, hpos, -⟩
                omega
              · have hpos : 0 < toldFetchTime pairs := by omega
                simp [ht, hpos, eq_comm]

theorem ofExtended_eq_ok_iff (registrable : List String → Bool) (limits : Limits) (text : String)
    (q : Policy) :
    (ofExtended registrable limits text).1 = .ok q ↔
      ∃ r, toldRecord registrable (Document.parse limits (Utf8.encode text.toList)).1 = .ok r ∧
        q = assemble limits
          ⟨(Document.parse limits (Utf8.encode text.toList)).2, 0, Utf8.encode text.toList⟩
          (toldFetchTime (Document.parse limits (Utf8.encode text.toList)).1) (some r)
          (Document.parse limits (Utf8.encode text.toList)).1 := by
  simp only [ofExtended, build]
  cases toldRecord registrable (Document.parse limits (Utf8.encode text.toList)).1 with
  | error e => simp
  | ok r => simp [eq_comm]

theorem bare_of_mem_readResponse {limits : Limits} {response? : Option Https.Response} {pair : Pair}
    (h : pair ∈ (readResponse limits response?).1) : Bare pair.2 ∧ '\n' ∉ pair.2.toList := by
  cases response? with
  | none => cases h
  | some response =>
      simp only [readResponse] at h
      split at h
      · cases h
      · exact bare_of_mem_parse h

-- The version and the masks of a policy are values of its pairs.
theorem texts_assemble {pairs : List Pair} (limits : Limits) (origin : Origin) (fetchTime : Int)
    (record : Option Record) (h : ∀ pair ∈ pairs, Bare pair.2 ∧ '\n' ∉ pair.2.toList) :
    ∀ text, (assemble limits origin fetchTime record pairs).version = some text ∨
        text ∈ (assemble limits origin fetchTime record pairs).masks →
      Bare text ∧ '\n' ∉ text.toList := by
  rintro text (hlast | hmask)
  · rw [assemble_version] at hlast
    exact h ("version", text) ((mem_values _ _ _).mp (List.mem_of_getLast? hlast))
  · rw [assemble_masks] at hmask
    exact h ("mx", text) ((mem_values _ _ _).mp hmask)

-- A valid policy that was built from a response for a readable record is genuine.
theorem genuine_ofResponse {limits : Limits} {now : Int} {response? : Option Https.Response}
    {record : Record} {domain : String} {parsed : Record.Parsed}
    (hvalid : (ofResponse limits now response? (some record)).1.isValid = true) (hnow : 0 < now)
    (hnamed : record.domain = some domain) (htidy : Domain.Tidy domain.toList)
    (hread : Record.parse record.id = .ok parsed) :
    Genuine limits (ofResponse limits now response? (some record)).1 record domain := by
  rw [ofResponse_fst] at hvalid ⊢
  have hbare : ∀ pair ∈ (readResponse limits response?).1,
      Bare pair.2 ∧ '\n' ∉ pair.2.toList := fun _ => bare_of_mem_readResponse
  have hproblems := ((isValid_iff _).mp hvalid).1
  rw [assemble_problems, List.append_eq_nil_iff, problems_eq_nil_iff] at hproblems
  refine ⟨hvalid, ?_, texts_assemble _ _ _ _ hbare, ?_, hnow, rfl, hnamed, htidy,
    Record.colon_notMem_token hread⟩
  · rw [assemble_version]
    exact ⟨_, List.getLast?_eq_some_getLast hproblems.2.2.1⟩
  · rw [assemble_maxAge, assemble_mode]
    exact ⟨_, rfl⟩

section Restore

variable {registrable : List String → Bool} {limits : Limits} {p : Policy} {record : Record}
  {domain : String}

theorem lines_recordId (token : String) :
    lines (lineBytes "record_id" token ++ [cr, lf]) =
      splitOnPair cr lf (lineBytes "record_id" token ++ [cr, lf]) :=
  lines_of_hasPair ⟨lineBytes "record_id" token, [], by simp⟩

-- The extended document has no problem exactly if its lines fit and stay lines.
theorem Genuine.parse_extended_iff (h : Genuine limits p record domain) (found : List Pair) :
    Document.parse limits (Utf8.encode p.extended.toList) = (found, .empty) ↔
      (∀ pair ∈ Policy.told p domain,
        ((lineBytes pair.1 pair.2).length : Int) ≤ limits.lineLength) ∧ '\n' ∉ domain.toList ∧
      ∃ first, Document.parse limits (lineBytes "record_id" record.token ++ [cr, lf]) =
        ([("record_id", first)], .empty) ∧ found = retold p domain first := by
  rw [encode_extended h.recorded h.named,
    parse_document_append limits (fun pair hpair => (h.told pair hpair).1) (lines_recordId _)]
  constructor
  · rintro ⟨hlines, more, hmore, rfl⟩
    obtain ⟨first, rfl⟩ :=
      parse_lineBytes_of_colon_notMem (keyText_of_told _ (by simp)) h.token hmore
    exact ⟨fun pair hpair => (hlines pair hpair).1,
      (hlines ("domain", domain) (by simp [Policy.told])).2, first, hmore, rfl⟩
  · rintro ⟨hfits, hlf, first, hmore, rfl⟩
    refine ⟨fun pair hpair => ⟨hfits pair hpair, ?_⟩, _, hmore, rfl⟩
    by_cases hname : pair = ("domain", domain)
    · rw [hname]
      exact hlf
    · exact (h.told pair hpair).2 hname

theorem Genuine.same_assemble (h : Genuine limits p record domain) (hlimits : Ordered limits)
    (body : Bytes) (first : String) (r : Record) (htime : p.fetchTime < 10 ^ Integer.digitLimit) :
    SameContent p (assemble limits ⟨.empty, 0, body⟩ (toldFetchTime (retold p domain first))
      (some r) (retold p domain first)) := by
  obtain ⟨age, hage⟩ := h.age
  obtain ⟨version, hversion⟩ := h.version
  have hpos := h.maxAge_pos
  have hlt : p.maxAge < 10 ^ 10 := hage ▸ hlimits.bounded.clamped_lt p.mode age
  have hmode : requestedMode (retold p domain first) = p.mode :=
    requestedMode_of_values (mode_retold p domain first)
  have hsame : clamped limits (requestedMode (retold p domain first))
      (requestedAge limits (retold p domain first)) = p.maxAge := by
    rw [hmode, requestedAge_of_values (maxAge_retold p domain first),
      if_pos ⟨Int.le_of_lt hpos, hlt⟩, hage, hlimits.bounded.clamped_clamped]
  refine ⟨?_, ?_, ?_, ?_, ?_, ?_, allows_congr ?_ ?_⟩
  · rw [assemble_version, lastValue?, version_retold, hversion]
    rfl
  · rw [assemble_mode, hmode]
  · rw [assemble_masks, mx_retold]
  · rw [assemble_maxAge, hsame]
  · rw [assemble_fetchTime, toldFetchTime_of_values (fetchTime_retold p domain first)
      (Int.le_of_lt h.time), if_pos htime]
  · obtain ⟨-, hne, -, hmasks⟩ := (isValid_iff p).mp h.valid
    rw [h.valid, isValid_iff, assemble_problems, assemble_mode, assemble_maxAge, assemble_masks,
      hsame, hmode, mx_retold, problems_retold first (by simp [hversion]) (Int.le_of_lt hpos) hlt]
    exact ⟨rfl, hne, hpos, hmasks⟩
  · rw [assemble_mode, hmode]
  · rw [assemble_masks, mx_retold]

-- A genuine policy comes back from its extended document exactly if it is restorable.
theorem Genuine.restored_iff (h : Genuine limits p record domain) (hlimits : Ordered limits) :
    (∃ q, (ofExtended registrable limits p.extended).1 = .ok q ∧ SameContent p q) ↔
      Restorable registrable limits p record domain := by
  constructor
  · rintro ⟨q, hq, hsame⟩
    obtain ⟨r, hr, heq⟩ := (ofExtended_eq_ok_iff registrable limits p.extended q).mp hq
    have hvalid := hsame.valid.trans h.valid
    rw [heq, isValid_iff, assemble_problems, List.append_eq_nil_iff] at hvalid
    have hparse := (parse_eq_iff_problems limits _ _).mpr ⟨rfl, hvalid.1.1⟩
    obtain ⟨hfits, hlf, first, htoken, hfound⟩ := (h.parse_extended_iff _).mp hparse
    rw [hfound, toldRecord_eq_ok_iff,
      toldDomain?_of_values registrable (domain_retold p domain first),
      toldToken?_of_values (recordId_retold p domain first),
      toldFetchTime_of_values (fetchTime_retold p domain first) (Int.le_of_lt h.time)] at hr
    obtain ⟨v, d, t, -, hd, ht, htime, -⟩ := hr
    -- the document was parsed, so what is left to fail is the record
    refine ⟨hfits, ⟨?_, hlf⟩, ⟨first, ?_, htoken⟩, ?_⟩
    · by_contra hinvalid
      rw [if_neg hinvalid] at hd
      cases hd
    · intro hblank
      rw [if_pos hblank] at ht
      cases ht
    · by_contra hlong
      rw [if_neg hlong] at htime
      exact Int.lt_irrefl 0 htime
  · rintro ⟨hfits, ⟨hname, hlf⟩, ⟨first, hblank, htoken⟩, htime⟩
    obtain ⟨version, hversion⟩ := h.version
    have hparse := (h.parse_extended_iff _).mpr ⟨hfits, hlf, first, htoken, rfl⟩
    obtain ⟨r, hr⟩ : ∃ r, toldRecord registrable (retold p domain first) = .ok r := by
      refine ⟨_, (toldRecord_eq_ok_iff registrable (retold p domain first) _).mpr
        ⟨version, Domain.normalize domain, trimmed first, ?_, ?_, ?_, ?_, rfl⟩⟩
      · rw [lastValue?, version_retold, hversion]
        rfl
      · rw [toldDomain?_of_values registrable (domain_retold p domain first), if_pos hname]
      · rw [toldToken?_of_values (recordId_retold p domain first), if_neg hblank]
      · rw [toldFetchTime_of_values (fetchTime_retold p domain first) (Int.le_of_lt h.time),
          if_pos htime]
        exact h.time
    have hok := (ofExtended_eq_ok_iff registrable limits p.extended _).mpr
      ⟨r, by rw [hparse]; exact hr, rfl⟩
    rw [hparse] at hok
    exact ⟨_, hok, h.same_assemble hlimits _ first r htime⟩

end Restore

end StrictTransport.Policy
