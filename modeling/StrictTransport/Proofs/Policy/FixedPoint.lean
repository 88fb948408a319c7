import StrictTransport.Proofs.Policy.Identity
import StrictTransport.Proofs.Record.Respliced

namespace StrictTransport.Policy

open Document Text

-- A policy that was read from an extended document.
structure Restored (registrable : List String → Bool) (p : Policy) (version : String)
    (record : Record) (domain : String) : Prop where
  versioned : p.version = some version
  texts : ∀ text, p.version = some text ∨ text ∈ p.masks → Bare text ∧ '\n' ∉ text.toList
  time : 0 < p.fetchTime
  digits : p.fetchTime < 10 ^ Integer.digitLimit
  recorded : p.record = some record
  named : record.domain = some domain
  valid : Domain.isValid registrable domain = true
  tidy : Domain.Tidy domain.toList
  line : '\n' ∉ domain.toList
  spliced : ∃ token : String, record.id = s!"v={version}; id={token};" ∧ '\n' ∉ token.toList

theorem lt_of_toldFetchTime {pairs : List Pair} (h : 0 < toldFetchTime pairs) :
    toldFetchTime pairs < 10 ^ Integer.digitLimit := by
  rw [toldFetchTime] at h ⊢
  cases hlast : (fetchTimes pairs).getLast? with
  | none =>
      rw [hlast] at h
      exact absurd h (by decide)
  | some t =>
      obtain ⟨value, -, hread⟩ := List.mem_filterMap.mp (List.mem_of_getLast? hlast)
      rw [Option.getD_some]
      cases hvalue : Integer.read value with
      | error e =>
          rw [hvalue] at hread
          cases hread
      | ok n =>
          rw [hvalue] at hread
          obtain rfl := Option.some.inj hread
          exact Integer.lt_of_read hvalue

theorem isValid_normalize {registrable : List String → Bool} {name : String}
    (htidy : Domain.Tidy (Domain.normalize name).toList) :
    Domain.isValid registrable (Domain.normalize name) = Domain.isValid registrable name := by
  simp only [Domain.isValid, htidy.normalize_eq]

theorem restored_ofExtended {registrable : List String → Bool} {limits : Limits} {text : String}
    {p : Policy} (h : (ofExtended registrable limits text).1 = .ok p) :
    ∃ version record domain, Restored registrable p version record domain := by
  obtain ⟨record, hrecord, rfl⟩ := (ofExtended_eq_ok_iff registrable limits text p).mp h
  have hbare : ∀ pair ∈ (Document.parse limits (Utf8.encode text.toList)).1,
      Bare pair.2 ∧ '\n' ∉ pair.2.toList := fun _ => bare_of_mem_parse
  generalize (Document.parse limits (Utf8.encode text.toList)).1 = pairs at hrecord hbare ⊢
  obtain ⟨version, domain, token, hversion, hdomain, htoken, htime, rfl⟩ :=
    (toldRecord_eq_ok_iff registrable pairs record).mp hrecord
  obtain ⟨name, hname, rfl⟩ := Option.map_eq_some_iff.mp hdomain
  obtain ⟨hmem, hvalid⟩ := List.mem_filter.mp (List.mem_of_getLast? hname)
  have hlf := (hbare _ ((mem_values _ _ _).mp hmem)).2
  have htidy := Domain.tidy_of_isValid_of_line hvalid hlf
  rw [← assemble_version] at hversion
  refine ⟨version, _, Domain.normalize name, ⟨hversion, texts_assemble _ _ _ _ hbare, htime,
    lt_of_toldFetchTime htime, rfl, rfl, (isValid_normalize htidy).trans hvalid, htidy,
    Domain.lf_notMem_normalize hlf, token, rfl, ?_⟩⟩
  obtain ⟨value, hvalue, rfl⟩ :=
    List.mem_map.mp (List.mem_filter.mp (List.mem_of_getLast? htoken)).1
  rw [trimmed, onString, String.toList_ofList]
  exact fun hmem => (hbare _ ((mem_values _ _ _).mp hvalue)).2 (mem_of_mem_trimWhile hmem)

-- The age that is read from the line that tells one, before it is brought within the limits.
def toldAge (limits : Limits) (age : Int) : Int :=
  if Fits limits ("max_age", toString age) then
    if 0 ≤ age ∧ age < 10 ^ 10 then age else limits.minAge
  else 0

theorem values_kept (limits : Limits) (key : String) (pairs : List Pair) :
    values key (kept limits pairs) =
      (values key pairs).filter fun value => decide (Fits limits (key, value)) := by
  rw [values, kept, values, List.filter_map, List.filter_filter, List.filter_filter]
  refine congrArg (List.map Prod.snd) (List.filter_congr fun pair _ => ?_)
  obtain ⟨other, value⟩ := pair
  by_cases hkey : other = key
  · subst hkey
    exact Bool.and_comm _ _
  · have hbeq : (other == key) = false := beq_eq_false_iff_ne.mpr hkey
    change (other == key && _) = (_ && other == key)
    rw [hbeq, Bool.false_and, Bool.and_false]

theorem values_kept_of_singleton (limits : Limits) {key value : String} {pairs : List Pair}
    (h : values key pairs = [value]) :
    values key (kept limits pairs) = if Fits limits (key, value) then [value] else [] := by
  rw [values_kept, h, List.filter_cons, List.filter_nil]
  by_cases hfits : Fits limits (key, value)
  · rw [if_pos hfits, if_pos (decide_eq_true hfits)]
  · rw [if_neg hfits, if_neg (fun hkept => hfits (of_decide_eq_true hkept))]

section Reload

variable {registrable : List String → Bool} {limits : Limits} {p : Policy} {version domain : String}
  {record : Record}

theorem Restored.token (h : Restored registrable p version record domain) :
    Bare record.token ∧ '\n' ∉ record.token.toList ∧ trimmed record.token = record.token := by
  obtain ⟨token, hid, hlf⟩ := h.spliced
  obtain ⟨a, ha, hfirst⟩ := Record.head?_token_of_splice hid
  obtain ⟨b, hb, hlast⟩ := Record.getLast?_token_of_splice hid
  have hvisible := Record.isBlank_of_isTokenChar hfirst
  have hversion := (h.texts version (.inl h.versioned)).2
  refine ⟨bare_of_ends ha hvisible hb hlast, fun hmem => ?_, ?_⟩
  · have hwhole := Record.mem_of_mem_token hmem
    rw [hid, Record.toList_splice, Record.spliced] at hwhole
    simp [hversion, hlf] at hwhole
  · rw [trimmed, onString, trim_of_ends ha hvisible hb hlast, String.ofList_toList]

theorem Restored.told (h : Restored registrable p version record domain) :
    ∀ pair ∈ retold p domain record.token, Told pair ∧ '\n' ∉ pair.2.toList := by
  intro pair hpair
  rcases List.mem_append.mp hpair with htold | htoken
  · obtain ⟨hline, hlf⟩ := told_of_texts h.texts h.tidy pair htold
    refine ⟨hline, ?_⟩
    by_cases hname : pair = ("domain", domain)
    · rw [hname]
      exact h.line
    · exact hlf hname
  · obtain ⟨hbare, hlf, -⟩ := h.token
    rw [List.mem_singleton.mp htoken]
    exact ⟨told_of_bare (keyText_of_told _ (by simp)) ⟨hbare, hlf⟩, hlf⟩

-- Only the lines that are too long get lost.
theorem Restored.fst_parse (h : Restored registrable p version record domain) (limits : Limits) :
    (Document.parse limits (Utf8.encode p.extended.toList)).1 =
      kept limits (retold p domain record.token) := by
  rw [encode_extended_eq_document h.recorded h.named, fst_parse_document_eq_kept limits h.told]

-- The lines without which no record can be told again.
def identity (p : Policy) (version domain : String) (record : Record) : List Pair :=
  [("version", version), ("fetch_time", toString p.fetchTime), ("domain", domain),
    ("record_id", record.token)]

theorem Restored.toldFetchTime_kept (h : Restored registrable p version record domain) :
    toldFetchTime (kept limits (retold p domain record.token)) =
      if Fits limits ("fetch_time", toString p.fetchTime) then p.fetchTime else 0 := by
  have hkept := values_kept_of_singleton limits (fetchTime_retold p domain record.token)
  split_ifs at hkept ⊢
  · rw [toldFetchTime_of_values hkept (Int.le_of_lt h.time), if_pos h.digits]
  · rw [toldFetchTime, fetchTimes, hkept]
    rfl

theorem Restored.toldRecord_kept (h : Restored registrable p version record domain)
    (r : Record) :
    toldRecord registrable (kept limits (retold p domain record.token)) = .ok r ↔
      (∀ pair ∈ identity p version domain record, Fits limits pair) ∧
        r = ⟨some domain, s!"v={version}; id={record.token};"⟩ := by
  have hversion : lastValue? "version" (kept limits (retold p domain record.token)) =
      if Fits limits ("version", version) then some version else none := by
    have hsingle : values "version" (retold p domain record.token) = [version] := by
      rw [version_retold, h.versioned]
      rfl
    rw [lastValue?, values_kept_of_singleton limits hsingle]
    split_ifs <;> rfl
  have hdomain : toldDomain? registrable (kept limits (retold p domain record.token)) =
      if Fits limits ("domain", domain) then some domain else none := by
    have hkept := values_kept_of_singleton limits (domain_retold p domain record.token)
    split_ifs at hkept ⊢
    · rw [toldDomain?_of_values registrable hkept, if_pos h.valid, h.tidy.normalize_eq]
    · rw [toldDomain?, hkept]
      rfl
  have htoken : toldToken? (kept limits (retold p domain record.token)) =
      if Fits limits ("record_id", record.token) then some record.token else none := by
    have hkept := values_kept_of_singleton limits (recordId_retold p domain record.token)
    split_ifs at hkept ⊢
    · have hne : record.token ≠ "" := by
        obtain ⟨c, hc, -⟩ := h.token.1.first
        intro hempty
        rw [hempty] at hc
        cases hc
      rw [toldToken?_of_values hkept, h.token.2.2, if_neg hne]
    · rw [toldToken?, hkept]
      rfl
  have htime : 0 < toldFetchTime (kept limits (retold p domain record.token)) ↔
      Fits limits ("fetch_time", toString p.fetchTime) := by
    rw [h.toldFetchTime_kept]
    split_ifs with hfits
    · exact iff_of_true h.time hfits
    · exact iff_of_false (by decide) hfits
  rw [toldRecord_eq_ok_iff, hversion, hdomain, htoken, htime]
  simp only [Option.ite_none_right_eq_some, Option.some.injEq, identity, List.forall_mem_cons]
  constructor
  · rintro ⟨_, _, _, ⟨hversion, rfl⟩, ⟨hdomain, rfl⟩, ⟨htoken, rfl⟩, htime, hr⟩
    exact ⟨⟨hversion, htime, hdomain, htoken, fun _ h => absurd h List.not_mem_nil⟩, hr⟩
  · rintro ⟨⟨hversion, htime, hdomain, htoken, -⟩, hr⟩
    exact ⟨_, _, _, ⟨hversion, rfl⟩, ⟨hdomain, rfl⟩, ⟨htoken, rfl⟩, htime, hr⟩

theorem length_lineBytes (key value : String) :
    (lineBytes key value).length =
      (Utf8.encode key.toList).length + (Utf8.encode value.toList).length + 2 := by
  rw [lineBytes, List.length_append, List.length_cons, List.length_cons]
  omega

-- The line of the mode is never longer than the one of the fetch time.
theorem fits_mode (h : Fits limits ("fetch_time", toString p.fetchTime)) :
    Fits limits ("mode", p.mode.name) := by
  have hmode : (Utf8.encode p.mode.name.toList).length ≤ 7 := by
    cases p.mode <;> decide
  have htime : 1 ≤ (Utf8.encode (toString p.fetchTime).toList).length := by
    obtain ⟨b, hb, -⟩ := (bare_toString p.fetchTime).1.head?
    exact List.length_pos_of_mem (List.mem_of_head? hb)
  have hkeys : (Utf8.encode "mode".toList).length = 4 ∧
      (Utf8.encode "fetch_time".toList).length = 10 := by
    decide
  rw [Fits, length_lineBytes] at h ⊢
  simp only at h ⊢
  omega

theorem requestedAge_kept (domain token : String) :
    requestedAge limits (kept limits (retold p domain token)) = toldAge limits p.maxAge := by
  have hkept := values_kept_of_singleton limits (maxAge_retold p domain token)
  rw [toldAge]
  split_ifs at hkept with hfits
  · rw [requestedAge_of_values hkept, if_pos hfits]
  · rw [requestedAge, lastValue?, hkept, if_neg hfits]
    rfl

-- A policy that was told, and told again.
structure Reloaded (limits : Limits) (p q : Policy) : Prop where
  version : q.version = p.version
  mode : q.mode = p.mode
  masks : q.masks = p.masks.filter fun mask => decide (Fits limits ("mx", mask))
  maxAge : q.maxAge = clamped limits p.mode (toldAge limits p.maxAge)
  fetchTime : q.fetchTime = p.fetchTime

theorem Restored.reload {q : Policy} (h : Restored registrable p version record domain)
    (hreload : (ofExtended registrable limits p.extended).1 = .ok q) :
    Reloaded limits p q ∧
      q.record = some ⟨some domain, s!"v={version}; id={record.token};"⟩ := by
  obtain ⟨r, hr, hq⟩ := (ofExtended_eq_ok_iff registrable limits p.extended q).mp hreload
  rw [h.fst_parse] at hr hq
  obtain ⟨hfits, hrecord⟩ := (h.toldRecord_kept r).mp hr
  have hversion : Fits limits ("version", version) := hfits _ (by simp [identity])
  have htime : Fits limits ("fetch_time", toString p.fetchTime) := hfits _ (by simp [identity])
  have hmode : requestedMode (kept limits (retold p domain record.token)) = p.mode := by
    refine requestedMode_of_values ?_
    rw [values_kept_of_singleton limits (mode_retold p domain record.token),
      if_pos (fits_mode htime)]
  refine ⟨⟨?_, ?_, ?_, ?_, ?_⟩, ?_⟩
  · rw [hq, assemble_version, lastValue?, values_kept, version_retold, h.versioned]
    simp [hversion]
  · rw [hq, assemble_mode, hmode]
  · rw [hq, assemble_masks, values_kept, mx_retold]
  · rw [hq, assemble_maxAge, hmode, requestedAge_kept]
  · rw [hq, assemble_fetchTime, h.toldFetchTime_kept, if_pos htime]
  · rw [hq, assemble_record, hrecord]

theorem Restored.reloads_iff (h : Restored registrable p version record domain) :
    (∃ q, (ofExtended registrable limits p.extended).1 = .ok q) ↔
      ∀ pair ∈ identity p version domain record, Fits limits pair := by
  simp only [ofExtended_eq_ok_iff, h.fst_parse, h.toldRecord_kept]
  constructor
  · rintro ⟨_, _, ⟨hfits, -⟩, -⟩
    exact hfits
  · exact fun hfits => ⟨_, _, ⟨hfits, rfl⟩, rfl⟩

theorem Restored.extended_eq_iff {q : Policy} {version' domain' : String} {record' : Record}
    (hq : Restored registrable q version' record' domain')
    (h : Restored registrable p version record domain) :
    q.extended = p.extended ↔
      retold q domain' record'.token = retold p domain record.token := by
  have hdecode : q.extended = p.extended ↔
      Utf8.encode q.extended.toList = Utf8.encode p.extended.toList := by
    refine ⟨fun heq => by rw [heq], fun heq => ?_⟩
    have hchars := congrArg Utf8.decodeLossy heq
    rwa [Utf8.decodeLossy_encode, Utf8.decodeLossy_encode, String.toList_inj] at hchars
  rw [hdecode, encode_extended_eq_document hq.recorded hq.named,
    encode_extended_eq_document h.recorded h.named]
  exact ⟨document_inj hq.told h.told, congrArg document⟩

theorem Restored.same_extended_iff {q : Policy} (h : Restored registrable p version record domain)
    (hreload : (ofExtended registrable limits p.extended).1 = .ok q) :
    q.extended = p.extended ↔ (∀ mask ∈ p.masks, Fits limits ("mx", mask)) ∧
      clamped limits p.mode (toldAge limits p.maxAge) = p.maxAge ∧ record.token ≠ record.id := by
  obtain ⟨hsame, hrecord⟩ := h.reload hreload
  obtain ⟨_, record', domain', hq⟩ := restored_ofExtended hreload
  obtain rfl := Option.some.inj (hq.recorded.symm.trans hrecord)
  obtain rfl := Option.some.inj hq.named
  obtain ⟨token, hid, -⟩ := h.spliced
  rw [hq.extended_eq_iff h, ← Record.token_resplice_iff hid (some domain)]
  constructor
  · intro hretold
    have hvalues := fun key => congrArg (values key) hretold
    have hmasks := hvalues "mx"
    have hage := hvalues "max_age"
    have htoken := hvalues "record_id"
    rw [mx_retold, mx_retold, hsame.masks, List.filter_eq_self] at hmasks
    rw [maxAge_retold, maxAge_retold, hsame.maxAge, List.singleton_inj] at hage
    rw [recordId_retold, recordId_retold, List.singleton_inj] at htoken
    exact ⟨fun mask hmask => of_decide_eq_true (hmasks mask hmask), eq_of_toString_eq hage, htoken⟩
  · rintro ⟨hmasks, hage, htoken⟩
    have hall : q.masks = p.masks := by
      rw [hsame.masks, List.filter_eq_self]
      exact fun mask hmask => decide_eq_true (hmasks mask hmask)
    rw [retold, retold, Policy.told, Policy.told, hsame.version, hsame.mode, hall, hsame.maxAge,
      hage, hsame.fetchTime, htoken]

theorem Restored.same_generation_iff {q : Policy}
    (h : Restored registrable p version record domain)
    (hreload : (ofExtended registrable limits p.extended).1 = .ok q) :
    ∃ restored, q.record = some restored ∧
      (restored.sameGeneration p.record = true ↔ record.token ≠ record.id) := by
  obtain ⟨token, hid, -⟩ := h.spliced
  refine ⟨_, (h.reload hreload).2, ?_⟩
  rw [h.recorded, Record.sameGeneration_eq_true_iff, ← Record.token_resplice_iff hid (some domain)]
  constructor
  · rintro ⟨_, _, -, -, -, htoken⟩
    exact htoken
  · exact fun htoken => ⟨domain, domain, rfl, h.named, rfl, htoken⟩

end Reload

-- A policy that was read from an extended document can be read from its own one exactly if the
-- lines that identify it are short enough. Then the second document is the first one exactly if
-- no mask gets lost, the age that is read is brought to the same one, and the record has an id.
theorem reload_extended {registrable : List String → Bool} {limits : Limits} {text : String}
    {p : Policy} (h : (ofExtended registrable limits text).1 = .ok p) :
    ∃ version record domain, p.version = some version ∧ p.record = some record ∧
      record.domain = some domain ∧
      ((∃ q, (ofExtended registrable limits p.extended).1 = .ok q) ↔
        ∀ pair ∈ identity p version domain record, Fits limits pair) ∧
      ∀ q, (ofExtended registrable limits p.extended).1 = .ok q →
        (q.extended = p.extended ↔ (∀ mask ∈ p.masks, Fits limits ("mx", mask)) ∧
          clamped limits p.mode (toldAge limits p.maxAge) = p.maxAge ∧
          record.token ≠ record.id) ∧
        ∃ restored, q.record = some restored ∧
          (restored.sameGeneration p.record = true ↔ record.token ≠ record.id) := by
  obtain ⟨version, record, domain, hp⟩ := restored_ofExtended h
  exact ⟨version, record, domain, hp.versioned, hp.recorded, hp.named, hp.reloads_iff,
    fun q hq => ⟨hp.same_extended_iff hq, hp.same_generation_iff hq⟩⟩

def storedText (token : String) : String :=
  "version: STSv1\r\nmode: enforce\r\nmx: mail.example.com\r\nmax_age: 604800\r\n" ++
    s!"fetch_time: 1700000000\r\ndomain: example.com\r\nrecord_id: {token}\r\n"

def storedPolicy (token : String) : Policy where
  version := some "STSv1"
  mode := .enforce
  masks := ["mail.example.com"]
  maxAge := 604800
  fetchTime := 1700000000
  record := some ⟨some "example.com", s!"v=STSv1; id={token};"⟩
  certificates := 0
  body := Utf8.encode (storedText token).toList
  validation := .empty
  cached := false

-- A token that begins with a semicolon makes a record without an id.
theorem storedPolicy_reloaded :
    let read := fun text => (ofExtended (fun _ => true) .standard text).1
    (read (storedText "1") = .ok (storedPolicy "1") ∧
      ∃ q restored, read (storedPolicy "1").extended = .ok q ∧
        q.extended = (storedPolicy "1").extended ∧ q.record = some restored ∧
        restored.sameGeneration (storedPolicy "1").record = true) ∧
    read (storedText ";x") = .ok (storedPolicy ";x") ∧
      ∃ q restored, read (storedPolicy ";x").extended = .ok q ∧
        q.extended ≠ (storedPolicy ";x").extended ∧ q.record = some restored ∧
        restored.sameGeneration (storedPolicy ";x").record = false := by
  intro read
  have hplain : read (storedText "1") = .ok (storedPolicy "1") := by decide +kernel
  have hodd : read (storedText ";x") = .ok (storedPolicy ";x") := by decide +kernel
  refine ⟨⟨hplain, ?_⟩, hodd, ?_⟩
  · obtain ⟨version, record, domain, hversion, hrecord, hdomain, hreload, hsame⟩ :=
      reload_extended hplain
    obtain rfl := Option.some.inj hversion
    obtain rfl := Option.some.inj hrecord
    obtain rfl := Option.some.inj hdomain
    obtain ⟨q, hq⟩ := hreload.mpr (by decide +kernel)
    obtain ⟨hextended, restored, hrestored, hgeneration⟩ := hsame q hq
    have hid : Record.token ⟨some "example.com", "v=STSv1; id=1;"⟩ ≠ "v=STSv1; id=1;" := by
      decide +kernel
    exact ⟨q, restored, hq, hextended.mpr ⟨by decide +kernel, by decide +kernel, hid⟩, hrestored,
      hgeneration.mpr hid⟩
  · obtain ⟨version, record, domain, hversion, hrecord, hdomain, hreload, hsame⟩ :=
      reload_extended hodd
    obtain rfl := Option.some.inj hversion
    obtain rfl := Option.some.inj hrecord
    obtain rfl := Option.some.inj hdomain
    obtain ⟨q, hq⟩ := hreload.mpr (by decide +kernel)
    obtain ⟨hextended, restored, hrestored, hgeneration⟩ := hsame q hq
    have hwhole : Record.token ⟨some "example.com", "v=STSv1; id=;x;"⟩ = "v=STSv1; id=;x;" := by
      decide +kernel
    exact ⟨q, restored, hq, fun heq => (hextended.mp heq).2.2 hwhole, hrestored,
      Bool.eq_false_iff.mpr fun hequal => hgeneration.mp hequal hwhole⟩

end StrictTransport.Policy
