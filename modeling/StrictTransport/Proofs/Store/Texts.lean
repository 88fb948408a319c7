import StrictTransport.Proofs.Policy.Encoding
import StrictTransport.Proofs.Store.Load

namespace StrictTransport.Store

open Text

variable {registrable : List String → Bool} {limits : Limits}

-- Entries whose texts are strings.
def written (entries : List (String × String)) : List (String × List CodePoint) :=
  entries.map fun e => (e.1, codePoints e.2)

-- Entries up to the first one whose text has no encoding.
theorem exists_written (entries : List (String × List CodePoint)) :
    ∃ before rest, entries = written before ++ rest ∧
      ∀ e ∈ rest.head?, ∃ half, .surrogate half ∈ e.2 := by
  induction entries with
  | nil => exact ⟨[], [], rfl, nofun⟩
  | cons e entries ih =>
      cases htext : string? e.2 with
      | none =>
          refine ⟨[], e :: entries, rfl, fun d hd => ?_⟩
          obtain rfl := Option.some.inj hd
          exact string?_eq_none_iff.mp htext
      | some s =>
          obtain ⟨before, rest, rfl, hrest⟩ := ih
          have hwritten : e = (e.1, codePoints s) :=
            Prod.ext rfl (string?_eq_some_iff.mp htext)
          exact ⟨(e.1, s) :: before, rest, congrArg (· :: (written before ++ rest)) hwritten, hrest⟩

theorem loadTexts_written_append (state : Store × Nat × List Notice)
    (before : List (String × String)) (rest : List (String × List CodePoint)) :
    loadTexts registrable limits state (written before ++ rest) =
      loadTexts registrable limits (before.foldl (loadEntry registrable limits) state) rest := by
  induction before generalizing state with
  | nil => rfl
  | cons e before ih =>
      obtain ⟨s, loaded, notices⟩ := state
      rw [written, List.map_cons, List.cons_append, loadTexts, Policy.ofText_codePoints,
        List.foldl_cons, ← ih, loadEntry]
      obtain ⟨result, more⟩ := Policy.ofExtended registrable limits e.2
      cases result <;> rfl

-- A text without an encoding leaves what the entries before it have made.
theorem loadTexts_eq (registrable : List String → Bool) (limits : Limits)
    (state : Store × Nat × List Notice) {rest : List (String × List CodePoint)}
    (hrest : ∀ e ∈ rest.head?, ∃ half, .surrogate half ∈ e.2) :
    (loadTexts registrable limits state rest).1 =
        (if rest.isEmpty then .ok state.2.1 else .error .unencodable) ∧
      (loadTexts registrable limits state rest).2.1 = state.1 := by
  cases rest with
  | nil => exact ⟨rfl, rfl⟩
  | cons e rest =>
      obtain ⟨half, hhalf⟩ := hrest e rfl
      rw [loadTexts, Policy.ofText_of_surrogate hhalf]
      exact ⟨rfl, rfl⟩

-- New names come behind the others.
def withName (keys : List String) (e : String × Policy) : List String :=
  if Domain.normalize e.1 ∈ keys then keys else keys ++ [Domain.normalize e.1]

theorem keys_foldl_put (policies : List (String × Policy)) (s : Store) :
    (policies.foldl (fun s e => s.put e.1 e.2) s).keys = policies.foldl withName s.keys := by
  induction policies generalizing s with
  | nil => rfl
  | cons e policies ih => rw [List.foldl_cons, List.foldl_cons, ih, keys_put, withName]

-- A text is refused if it has no encoding or lacks one of four things, and then it tells what is
-- left of them. Loading takes each entry for itself: those that are read are stored in their order,
-- and what is under a name is what the last of them for it tells. The others are not seen in the
-- store, but one without an encoding ends the loading.
theorem load_discards (registrable : List String → Bool) (limits : Limits) :
    (∀ text e, (Policy.ofText registrable limits text).1 = .error e ↔
      (e = .unencodable ∧ ∃ half, .surrogate half ∈ text) ∨
      ∃ s, text = codePoints s ∧
        Policy.Lacks registrable (Document.parse limits (Utf8.encode s.toList)).1 ∧
        e = .corrupted
          (Policy.remains registrable (Document.parse limits (Utf8.encode s.toList)).1)) ∧
    ∀ (s : Store) (entries : List (String × List CodePoint)), ∃ before rest,
      entries = written before ++ rest ∧ (∀ e ∈ rest.head?, ∃ half, .surrogate half ∈ e.2) ∧
      let accepted := before.filterMap (loaded? registrable limits)
      let result := loadTexts registrable limits (s, 0, []) entries
      result.1 = (if rest.isEmpty then .ok accepted.length else .error .unencodable) ∧
      result.2.1 = accepted.foldl (fun s e => s.put e.1 e.2) s ∧
      (∀ name, result.2.1.find? name =
        (lastLoaded? registrable limits name before).or (s.find? name)) ∧
      result.2.1.keys = accepted.foldl withName s.keys := by
  refine ⟨Policy.ofText_eq_error_iff registrable limits, fun s entries => ?_⟩
  obtain ⟨before, rest, hentries, hrest⟩ := exists_written entries
  refine ⟨before, rest, hentries, hrest, ?_⟩
  have hloaded : loadTexts registrable limits (s, 0, []) entries =
      loadTexts registrable limits (s.load registrable limits before) rest := by
    rw [hentries, loadTexts_written_append]
    rfl
  obtain ⟨hstore, hcount⟩ := load_eq_foldl_put registrable limits s before
  obtain ⟨hresult, hleft⟩ :=
    loadTexts_eq registrable limits (s.load registrable limits before) hrest
  intro accepted result
  have hfinal : result.2.1 = (s.load registrable limits before).1 := by
    rw [← hleft, ← hloaded]
  refine ⟨?_, hfinal.trans hstore, fun name => ?_, ?_⟩
  · rw [← hcount, ← hresult, ← hloaded]
  · rw [hfinal, find?_load]
  · rw [hfinal, hstore, keys_foldl_put]

-- An entry without an encoding stands between two that can be read.
def loneHalfEntries : List (String × List CodePoint) :=
  let text := codePoints ("version: STSv1\nmode: none\nmax_age: 86400\nfetch_time: 1700000000\n" ++
    "domain: example.com\nrecord_id: 1\n")
  [("example.com", text), ("example.net", [.surrogate 0]), ("example.org", text)]

-- The first entry is stored, and the last one is never looked at.
theorem loneHalf_breaks :
    (Policy.ofText (fun _ => true) .standard [.surrogate 0]).1 = .error .unencodable ∧
      let result := loadTexts (fun _ => true) .standard (empty, 0, []) loneHalfEntries
      result.1 = .error .unencodable ∧ result.2.1.keys = ["example.com"] :=
  ⟨((load_discards (fun _ => true) .standard).1 [.surrogate 0] .unencodable).mpr
    (.inl ⟨rfl, 0, List.mem_cons_self⟩), by decide +kernel, by decide +kernel⟩

end StrictTransport.Store
