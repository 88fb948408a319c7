import StrictTransport.Policy.Retrieval
import StrictTransport.Proofs.Document.Parse
import StrictTransport.Proofs.Policy.Draft

namespace StrictTransport.Policy

open Document Https

-- What a response has to be for its policy to be usable. The pairs are those of the lines that are
-- not blank, each of which has to have one.
structure Usable (limits : Limits) (response : Response) (pairs : List Pair) : Prop where
  successful : 200 ≤ response.code ∧ response.code < 300
  secured : response.handshake = true
  lines : ∃ ls, AreLines (response.bytes.take limits.bodySize.toNat) ls ∧
    List.Forall₂ (Carries limits) (visible ls) pairs
  version : ∃ value, ("version", value) ∈ pairs
  hosts : ∃ value, ("mx", value) ∈ pairs
  ages : ∀ value, ("max_age", value) ∈ pairs → AgeForm value
  lasting : ∃ mode word age, (mode = Mode.testing ∨ mode = Mode.enforce) ∧
    (values "mode" pairs).getLast? = some word ∧ mode.Named word ∧
    (values "max_age" pairs).getLast? = some age ∧ 0 < clamped limits mode (decimal age)

theorem refusal?_eq_none_iff (response : Response) :
    refusal? response = none ↔
      (200 ≤ response.code ∧ response.code < 300) ∧ response.handshake = true := by
  have hsuccess : response.isSuccessful = true ↔ 200 ≤ response.code ∧ response.code < 300 := by
    rw [Response.isSuccessful, Bool.and_eq_true, decide_eq_true_iff, decide_eq_true_iff]
  rw [← hsuccess]
  unfold refusal?
  cases response.isSuccessful <;> cases response.handshake <;> simp

-- Values of pairs have been read from the bytes of a value.
theorem valueForm_of_carries {limits : Limits} {ls : List Bytes} {pairs : List Pair}
    (h : List.Forall₂ (Carries limits) ls pairs) :
    ∀ pair ∈ pairs, ∃ value, ValueForm value ∧ pair.2 = Document.text value := by
  induction h with
  | nil => simp
  | cons hcarries _ ih =>
      rintro pair (_ | ⟨_, hpair⟩)
      · obtain ⟨-, key, value, ⟨_, _, _, -, -, -, -, hvalue⟩, rfl⟩ := hcarries
        obtain ⟨_, _, _, -, -, -, -, hform⟩ := hvalue
        exact ⟨value, hform, rfl⟩
      · exact ih pair hpair

theorem lf_notMem_of_carries {limits : Limits} {ls : List Bytes} {pairs : List Pair}
    (h : List.Forall₂ (Carries limits) ls pairs) :
    ∀ pair ∈ pairs, '\n' ∉ pair.2.toList := by
  intro pair hpair
  obtain ⟨value, hform, heq⟩ := valueForm_of_carries h pair hpair
  rw [heq]
  exact lf_notMem_text value hform.2.2

-- Refusals are problems too, so a response without a problem is one that was read.
theorem readResponse_eq_iff_cut (limits : Limits) (response? : Option Response)
    (pairs : List Pair) :
    ((readResponse limits response?).1 = pairs ∧
        (readResponse limits response?).2.1.validation.problems = []) ↔
      ∃ response, response? = some response ∧ refusal? response = none ∧
        Document.parse limits (cut limits.bodySize response.bytes) = (pairs, .empty) := by
  cases response? with
  | none => simp [readResponse]
  | some response =>
      simp only [Option.some.injEq, exists_eq_left']
      cases hrefusal : refusal? response with
      | some problem => simp [readResponse, bodyOf, hrefusal]
      | none =>
          rw [parse_eq_iff_problems]
          simp only [readResponse, bodyOf, hrefusal, true_and]
          rfl

theorem readResponse_eq_iff (limits : Limits) (hsize : 0 ≤ limits.bodySize)
    (response? : Option Response) (pairs : List Pair) :
    ((readResponse limits response?).1 = pairs ∧
        (readResponse limits response?).2.1.validation.problems = []) ↔
      ∃ response, response? = some response ∧
        ((200 ≤ response.code ∧ response.code < 300) ∧ response.handshake = true) ∧
        Document.parse limits (response.bytes.take limits.bodySize.toNat) = (pairs, .empty) := by
  have hcut : ∀ bytes : Bytes, cut limits.bodySize bytes = bytes.take limits.bodySize.toNat :=
    fun bytes => if_pos hsize
  simp only [readResponse_eq_iff_cut, refusal?_eq_none_iff, hcut]

theorem ofResponse_fst (limits : Limits) (now : Int) (response? : Option Response)
    (record : Option Record) :
    (ofResponse limits now response? record).1 =
      assemble limits (readResponse limits response?).2.1 now record
        (readResponse limits response?).1 := rfl

theorem requestedMode_eq_iff (pairs : List Pair) (mode : Mode) (hmode : mode ≠ .none) :
    requestedMode pairs = mode ↔
      ∃ word, (values "mode" pairs).getLast? = some word ∧ mode.Named word := by
  unfold requestedMode lastValue?
  cases (values "mode" pairs).getLast? with
  | none => simpa using hmode.symm
  | some word =>
      simp only [Option.bind_some, Option.some.injEq, exists_eq_left', ← Mode.read?_eq_some_iff]
      cases Mode.read? word with
      | none => simpa using hmode.symm
      | some found => simp

theorem requestedAge_eq (limits : Limits) (pairs : List Pair) (age : String)
    (hage : (values "max_age" pairs).getLast? = some age) (hform : AgeForm age)
    (hlf : '\n' ∉ age.toList) : requestedAge limits pairs = decimal age := by
  rw [requestedAge, lastValue?, hage]
  simp only
  rw [if_pos ((isAge_iff age hlf).mpr hform), ageOf_eq age hform]

theorem requestedAge_of_carries {limits : Limits} {ls : List Bytes} {pairs : List Pair}
    (hlines : List.Forall₂ (Carries limits) ls pairs)
    (hages : ∀ value, ("max_age", value) ∈ pairs → AgeForm value) {age : String}
    (hlast : (values "max_age" pairs).getLast? = some age) :
    requestedAge limits pairs = decimal age := by
  have hmem := (mem_values "max_age" age pairs).mp (List.mem_of_getLast? hlast)
  exact requestedAge_eq limits pairs age hlast (hages age hmem) (lf_notMem_of_carries hlines _ hmem)

-- The ages of a document are all well formed when the policy raises no problem about them, since
-- values have no LF that could be let through behind the digits.
theorem ages_iff {limits : Limits} {ls : List Bytes} {pairs : List Pair}
    (h : List.Forall₂ (Carries limits) ls pairs) :
    (∀ value ∈ values "max_age" pairs, isAge value = true) ↔
      ∀ value, ("max_age", value) ∈ pairs → AgeForm value := by
  have hlf := lf_notMem_of_carries h
  simp only [mem_values]
  exact forall₂_congr fun value hvalue => isAge_iff value (hlf _ hvalue)

-- A policy can be applied exactly when its response and the document in it say so.
theorem isValid_ofResponse_iff (limits : Limits) (hsize : 0 ≤ limits.bodySize) (now : Int)
    (response? : Option Response) (record : Option Record) :
    (ofResponse limits now response? record).1.isValid = true ↔
      ∃ response pairs, response? = some response ∧ Usable limits response pairs := by
  rw [ofResponse_fst, isValid_iff, assemble_problems, assemble_mode, assemble_maxAge, assemble_masks,
    List.append_eq_nil_iff, problems_eq_nil_iff]
  constructor
  · rintro ⟨⟨hproblems, hages, hversion, -, hmaxAge⟩, hmode, hage, hmasks⟩
    obtain ⟨response, hresponse, ⟨hcode, hsecured⟩, hparse⟩ :=
      (readResponse_eq_iff limits hsize response? _).mp ⟨rfl, hproblems⟩
    generalize (readResponse limits response?).1 = pairs at *
    have hlines := (parse_eq_iff limits _ pairs).mp hparse
    have hforms := (ages_iff hlines).mp hages
    obtain ⟨word, hword, hname⟩ := (requestedMode_eq_iff pairs _ hmode).mp rfl
    obtain ⟨age, hlast⟩ : ∃ age, (values "max_age" pairs).getLast? = some age :=
      ⟨_, List.getLast?_eq_some_getLast hmaxAge⟩
    rw [requestedAge_of_carries hlines hforms hlast] at hage
    refine ⟨response, pairs, hresponse, hcode, hsecured, ⟨_, (areLines_iff _ _).mpr rfl, hlines⟩,
      (values_ne_nil_iff "version" pairs).mp hversion, (values_ne_nil_iff "mx" pairs).mp hmasks,
      hforms, requestedMode pairs, word, age, ?_, hword, hname, hlast, hage⟩
    cases hm : requestedMode pairs with
    | none => exact absurd hm hmode
    | testing => exact .inl rfl
    | enforce => exact .inr rfl
  · rintro ⟨response, pairs, hresponse, husable⟩
    obtain ⟨ls, hls, hlines⟩ := husable.lines
    obtain ⟨mode, word, age, hmode, hword, hname, hlast, hage⟩ := husable.lasting
    rw [(areLines_iff _ _).mp hls] at hlines
    obtain ⟨hpairs, hproblems⟩ := (readResponse_eq_iff limits hsize response? pairs).mpr
      ⟨response, hresponse, ⟨husable.successful, husable.secured⟩,
        (parse_eq_iff limits _ pairs).mpr hlines⟩
    have hne : mode ≠ .none := by rcases hmode with rfl | rfl <;> simp
    have hmodeEq := (requestedMode_eq_iff pairs mode hne).mpr ⟨word, hword, hname⟩
    rw [hpairs, hmodeEq, requestedAge_of_carries hlines husable.ages hlast]
    exact ⟨⟨hproblems, (ages_iff hlines).mpr husable.ages,
      (values_ne_nil_iff "version" pairs).mpr husable.version,
      List.ne_nil_of_mem (List.mem_of_getLast? hword),
      List.ne_nil_of_mem (List.mem_of_getLast? hlast)⟩, hne, hage,
      (values_ne_nil_iff "mx" pairs).mpr husable.hosts⟩

-- A document whose lines end in LF, and whose mode is overridden by a later one.
def overriddenMode : Response :=
  ⟨200, "OK", [], some (Text.Utf8.encode
    "version:STSv1\nmode: none\nmx: *.example.com\nmax_age: 86400\nmode: Testing\n".toList),
    true, .present 0, false, none⟩

theorem overriddenMode_usable :
    0 ≤ Limits.standard.bodySize ∧
      (ofResponse .standard 1700000000 (some overriddenMode) none).1.isValid = true ∧
      ∃ pairs, Usable .standard overriddenMode pairs := by
  have hvalid : (ofResponse .standard 1700000000 (some overriddenMode) none).1.isValid = true := by
    decide +kernel
  obtain ⟨response, pairs, hresponse, husable⟩ :=
    (isValid_ofResponse_iff .standard (by decide) 1700000000 (some overriddenMode) none).mp hvalid
  obtain rfl := Option.some.inj hresponse
  exact ⟨by decide, hvalid, pairs, husable⟩

end StrictTransport.Policy
