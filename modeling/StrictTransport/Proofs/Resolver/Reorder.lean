import Mathlib.Data.List.Forall2
import StrictTransport.Proofs.Resolver.Coherence

namespace StrictTransport

variable {σ ε α β : Type}

-- Whether two calls come to the same but for what they give.
inductive Likewise (r : α → α → Prop) : Except ε α → Except ε α → Prop
  | ok {a b : α} (h : r a b) : Likewise r (.ok a) (.ok b)
  | error (e : ε) : Likewise r (.error e) (.error e)

namespace Resolver

-- Whether texts of records of a type are the same, in any order if they are about mail hosts.
def SameTexts (type : String) (texts texts' : List String) : Prop :=
  texts.Perm texts' ∧ (type ≠ "MX" → texts = texts')

-- Whether two answers are the same but for the order of their records.
inductive Answer.Reordered : Answer → Answer → Prop
  | chunked {records records' : List (List Bytes)} (h : records.Perm records') :
      Reordered (.chunked records) (.chunked records')
  | texts {records records' : List String} (h : records.Perm records') :
      Reordered (.texts records) (.texts records')

-- Whether an entry of a cache is the same as another one, with its records in any order if they are
-- about mail hosts.
structure Entry.Alike (e e' : Entry) : Prop where
  key_eq : e.key = e'.key
  time_eq : e.time = e'.time
  perm : e.records.Perm e'.records
  records_eq : (∀ name, e.key ≠ Cache.key name "MX") → e.records = e'.records

structure Cache.Alike (c c' : Cache) : Prop where
  size_eq : c.size = c'.size
  maxAge_eq : c.maxAge = c'.maxAge
  entries : List.Forall₂ Entry.Alike c.entries c'.entries

end Resolver

-- Whether a world does what another one does, but for the order in which it answers questions for
-- mail hosts.
structure Outside.Reordered (o o' : Outside σ) : Prop where
  now_eq : o.now = o'.now
  depth_eq : o.depth = o'.depth
  request_eq : o.request = o'.request
  close_eq : o.close = o'.close
  after_eq : ∀ question x, (o.resolve question x).2 = (o'.resolve question x).2
  other : ∀ question x, question.type ≠ "MX" →
    (o.resolve question x).1 = (o'.resolve question x).1
  mail : ∀ question x, question.type = "MX" →
    Likewise Resolver.Answer.Reordered (o.resolve question x).1 (o'.resolve question x).1

-- Whether two worlds are the same but for the order of what is remembered of mail hosts.
structure World.Alike (w w' : World σ) : Prop where
  state_eq : w.state = w'.state
  answers : w.answers.Alike w'.answers
  notices_eq : w.notices = w'.notices

-- Whether two calls give what belongs together, and leave two such worlds.
inductive InStep (r : α → α → Prop) : α × World σ → α × World σ → Prop
  | intro {a b : α} {w w' : World σ} (given : r a b) (left : w.Alike w') : InStep r (a, w) (b, w')

namespace World.Alike

variable {w w' : World σ}

theorem withState (h : w.Alike w') (state : σ) :
    Alike { w with state } { w' with state } :=
  ⟨rfl, h.answers, h.notices_eq⟩

theorem withAnswers (h : w.Alike w') {c c' : Resolver.Cache} (hc : c.Alike c') :
    Alike { w with answers := c } { w' with answers := c' } :=
  ⟨h.state_eq, hc, h.notices_eq⟩

theorem note (h : w.Alike w') (notices : List Notice) : (w.note notices).Alike (w'.note notices) :=
  ⟨h.state_eq, h.answers, congrArg (· ++ notices) h.notices_eq⟩

theorem now_eq {o o' : Outside σ} (h : w.Alike w') (ho : o.Reordered o') :
    w.now o = w'.now o' := by
  rw [World.now, World.now, ho.now_eq, h.state_eq]

end World.Alike

theorem Resolver.Answer.Reordered.strings {a a' : Answer} (h : a.Reordered a') :
    a.strings.Perm a'.strings := by
  cases h with
  | chunked h => exact (h.filter _).map _
  | texts h => exact h.map _

theorem Outside.Reordered.resolve {o o' : Outside σ} (h : o.Reordered o')
    (question : Resolver.Question) (x : σ) :
    Likewise (fun a a' : Resolver.Answer => Resolver.SameTexts question.type a.strings a'.strings)
      (o.resolve question x).1 (o'.resolve question x).1 := by
  by_cases hmail : question.type = "MX"
  · have hanswer := h.mail question x hmail
    generalize (o.resolve question x).1 = result, (o'.resolve question x).1 = result' at hanswer ⊢
    cases hanswer with
    | ok hanswer => exact .ok ⟨hanswer.strings, fun hother => absurd hmail hother⟩
    | error failure => exact .error failure
  · rw [← h.other question x hmail]
    cases (o.resolve question x).1 with
    | ok answer => exact .ok ⟨.refl _, fun _ => rfl⟩
    | error failure => exact .error failure

namespace Resolver

theorem isType_record : IsType "TXT" ∧ uppered "TXT" = "TXT" := by
  unfold IsType
  decide +kernel

theorem isType_mail : IsType "MX" ∧ uppered "MX" = "MX" := by
  unfold IsType
  decide +kernel

section Entries

variable {c c' : Cache}

theorem forall₂_find? {r : α → β → Prop} {p : α → Bool} {q : β → Bool}
    (hpq : ∀ a b, r a b → p a = q b) {l : List α} {l' : List β} (h : List.Forall₂ r l l') :
    Option.Rel r (l.find? p) (l'.find? q) := by
  induction h with
  | nil => exact .none
  | @cons a b l l' hab _ ih =>
      rw [List.find?_cons, List.find?_cons, ← hpq a b hab]
      cases p a with
      | true => exact .some hab
      | false => exact ih

theorem Entry.Alike.isFresh_eq {e e' : Entry} (he : e.Alike e') (h : c.Alike c') (now : Int) :
    c.isFresh now e = c'.isFresh now e' := by
  rw [Cache.isFresh, Cache.isFresh, h.maxAge_eq, he.time_eq]

theorem Entry.Alike.beq_eq {e e' : Entry} (he : e.Alike e') (key : String) :
    (e.key == key) = (e'.key == key) := by
  rw [he.key_eq]

namespace Cache.Alike

theorem withEntries (h : c.Alike c') {entries entries' : List Entry}
    (hentries : List.Forall₂ Entry.Alike entries entries') :
    Alike { c with entries } { c' with entries := entries' } :=
  ⟨h.size_eq, h.maxAge_eq, hentries⟩

theorem find? (h : c.Alike c') (key : String) :
    Option.Rel Entry.Alike (c.find? key) (c'.find? key) :=
  forall₂_find? (fun _ _ he => he.beq_eq key) h.entries

theorem erase (h : c.Alike c') (key : String) : (c.erase key).Alike (c'.erase key) := by
  refine h.withEntries (List.rel_filter (fun e e' he => ?_) h.entries)
  simp only [bne, he.beq_eq key]

-- What is handed out for another type than that of mail hosts is the same, since no key is for
-- both.
theorem get? (h : c.Alike c') (now : Int) {type : String} (htype : IsType type) (name : String) :
    let key := Cache.key name type
    Option.Rel (SameTexts type) (c.get? now key).1 (c'.get? now key).1 ∧
      (c.get? now key).2.Alike (c'.get? now key).2 := by
  intro key
  have hfound := h.find? key
  have hkey : ∀ e ∈ c.find? key, e.key = key := fun e he =>
    beq_iff_eq.mp (List.find?_some he :)
  unfold Cache.get?
  generalize c.find? key = found, c'.find? key = found' at hfound hkey ⊢
  cases hfound with
  | none => exact ⟨.none, h⟩
  | some halike =>
      simp only [← halike.isFresh_eq h]
      split
      · refine ⟨.some ⟨halike.perm, fun hother => halike.records_eq fun other heq => ?_⟩, h⟩
        exact hother ((key_eq_iff htype isType_mail.1).mp ((hkey _ rfl).symm.trans heq)).2
      · exact ⟨.none, h.erase key⟩

theorem makeRoom (h : c.Alike c') (now : Int) (key : String) :
    (c.makeRoom now key).Alike (c'.makeRoom now key) := by
  have hfound := h.find? key
  have hfull : (c.entries.length : Int) = c.size ↔ (c'.entries.length : Int) = c'.size := by
    rw [h.entries.length_eq, h.size_eq]
  unfold Cache.makeRoom
  simp only [hfull]
  split
  · generalize c.find? key = found, c'.find? key = found' at hfound ⊢
    cases hfound with
    | none => exact h.withEntries (List.forall₂_drop 1 h.entries)
    | some halike =>
        simp only [halike.isFresh_eq h]
        split
        · exact h.erase key
        · exact h.withEntries (List.forall₂_drop 1 (h.erase key).entries)
  · exact h

theorem place {entries entries' : List Entry} (h : List.Forall₂ Entry.Alike entries entries')
    {e e' : Entry} (he : e.Alike e') :
    List.Forall₂ Entry.Alike (Cache.place entries e) (Cache.place entries' e') := by
  have hany : (entries.any fun d => d.key == e.key) = entries'.any fun d => d.key == e'.key := by
    induction h with
    | nil => rfl
    | cons hd _ ih => rw [List.any_cons, List.any_cons, ih, hd.key_eq, he.key_eq]
  unfold Cache.place
  rw [hany]
  split
  · refine List.rel_map (fun d d' hd => ?_) h
    rw [hd.key_eq, he.key_eq]
    split
    · exact he
    · exact hd
  · exact List.rel_append h (.cons he .nil)

theorem insert (h : c.Alike c') (now : Int) {name type : String} {texts texts' : List String}
    (htexts : SameTexts type texts texts') :
    let key := Cache.key name type
    (c.insert now key texts).Alike (c'.insert now key texts') := by
  intro key
  have hroom := h.makeRoom now key
  refine hroom.withEntries (place hroom.entries ⟨rfl, rfl, htexts.1, fun hother => htexts.2 ?_⟩)
  rintro rfl
  exact hother name rfl

end Cache.Alike

end Entries

section Queries

variable {o o' : Outside σ} {w w' : World σ} {name type : String}

theorem remembered_alike (h : o.Reordered o') (hw : w.Alike w') (htype : IsType type)
    (remember : Bool) (name : String) :
    InStep (Option.Rel (SameTexts type)) (remembered o remember (Cache.key name type) w)
      (remembered o' remember (Cache.key name type) w') := by
  cases remember with
  | false => exact .intro .none hw
  | true =>
      obtain ⟨htexts, hcache⟩ := hw.answers.get? (w.now o) htype name
      simp only [remembered, if_true, ← hw.now_eq h]
      exact .intro htexts (hw.withAnswers hcache)

theorem keep_alike (h : o.Reordered o') (hw : w.Alike w') (remember : Bool) (name : String)
    {texts texts' : List String} (htexts : SameTexts type texts texts') :
    (keep o remember (Cache.key name type) texts w).Alike
      (keep o' remember (Cache.key name type) texts' w') := by
  cases remember with
  | false => exact hw
  | true =>
      simp only [keep, if_true, ← hw.now_eq h]
      exact hw.withAnswers (hw.answers.insert (w.now o) htexts)

theorem ask_alike (h : o.Reordered o') (hw : w.Alike w') (options : Options) (name type : String) :
    InStep (Likewise fun a a' : Answer => SameTexts type a.strings a'.strings)
      (ask o (options.question name type) w) (ask o' (options.question name type) w') := by
  cases hquestion : options.question name type with
  | error failure => exact .intro (.error failure) hw
  | ok question =>
      obtain ⟨-, rfl⟩ := question_eq_ok hquestion
      simp only [ask, ← hw.state_eq, ← h.after_eq]
      exact .intro (h.resolve question w.state) (hw.withState _)

-- Two queries give the same texts, and they are in step again behind it.
theorem queryFrom_alike (h : o.Reordered o') (htype : IsType type) (hupper : uppered type = type)
    (options : Options) (remember : Bool) (depth retries : Nat) (name : String) {w w' : World σ}
    (hw : w.Alike w') :
    InStep (Likewise (SameTexts type)) (queryFrom o options remember depth retries name type w)
      (queryFrom o' options remember depth retries name type w') := by
  rw [queryFrom.eq_def, queryFrom.eq_def o']
  simp only [hupper]
  have hfound := remembered_alike h hw htype remember (Domain.normalize name)
  generalize remembered o remember (Cache.key (Domain.normalize name) type) w = r,
    remembered o' remember (Cache.key (Domain.normalize name) type) w' = r' at hfound ⊢
  obtain ⟨htexts, hrest⟩ := hfound
  cases htexts with
  | some htexts => exact .intro (.ok htexts) hrest
  | none =>
      have hasked := ask_alike h hrest options (Domain.normalize name) type
      dsimp only
      generalize ask o (options.question (Domain.normalize name) type) _ = asked,
        ask o' (options.question (Domain.normalize name) type) _ = asked' at hasked ⊢
      obtain ⟨hanswer, hafter⟩ := hasked
      cases hanswer with
      | ok hanswer => exact .intro (.ok hanswer) (keep_alike h hafter remember _ hanswer)
      | error failure =>
          cases failure with
          | expired seconds =>
              cases retries with
              | zero => exact .intro (.error _) hafter
              | succ retries =>
                  cases depth with
                  | zero => exact .intro (.error _) hafter
                  | succ depth =>
                      exact queryFrom_alike h htype hupper options remember depth retries _ hafter
          | _ => exact .intro (.error _) hafter

theorem query_alike (h : o.Reordered o') (htype : IsType type) (hupper : uppered type = type)
    (options : Options) (remember : Bool) (name : String) (hw : w.Alike w') :
    InStep (Likewise (SameTexts type)) (query o options remember name type w)
      (query o' options remember name type w') := by
  rw [query, query, ← h.depth_eq, ← hw.state_eq]
  exact queryFrom_alike h htype hupper options remember _ _ name hw

end Queries

end Resolver

end StrictTransport
