import StrictTransport.Proofs.Domain.Name

namespace StrictTransport.Domain

open Text

-- The small letters of ASCII, its digits and the hyphen.
def HostChar (c : Char) : Prop :=
  ('a' ≤ c ∧ c ≤ 'z') ∨ ('0' ≤ c ∧ c ≤ '9') ∨ c = '-'

-- 1 to 63 characters of a kind, with no hyphen at either end.
structure LabelOf (kind : Char → Prop) (label : List Char) : Prop where
  length : 1 ≤ label.length ∧ label.length ≤ 63
  chars : ∀ c ∈ label, kind c
  first : label.head? ≠ some '-'
  last : label.getLast? ≠ some '-'

-- At most 253 characters, in at least two labels of a kind.
structure NameOf (kind : List Char → Prop) (name : String) : Prop where
  length : name.length ≤ 253
  several : 2 ≤ (labels name).length
  each : ∀ label ∈ labels name, kind label

def HostName (name : String) : Prop :=
  NameOf (LabelOf HostChar) name

-- The two small letters of other scripts that are variants of letters of ASCII.
def Variant (c : Char) : Prop :=
  c = '\u0131' ∨ c = '\u017F'

-- A label that may have such letters, and one LF behind it.
def LooseLabel (label : List Char) : Prop :=
  ∃ body ending, label = body ++ ending ∧ (ending = [] ∨ ending = ['\n']) ∧
    LabelOf (fun c => HostChar c ∨ Variant c) body

section Characters

theorem hostChar_iff (c : Char) :
    HostChar c ↔ (97 ≤ c.toNat ∧ c.toNat ≤ 122) ∨ (48 ≤ c.toNat ∧ c.toNat ≤ 57) ∨ c.toNat = 45 := by
  have hhyphen : c = '-' ↔ c.toNat = 45 := by
    constructor
    · rintro rfl
      rfl
    · intro h
      rw [← Char.ofNat_toNat c, h]
  rw [HostChar, hhyphen]
  exact Iff.rfl

theorem variant_iff (c : Char) : Variant c ↔ c.toNat = 0x131 ∨ c.toNat = 0x17F := by
  constructor
  · rintro (rfl | rfl)
    · exact .inl rfl
    · exact .inr rfl
  · rintro (h | h)
    · exact .inl (by rw [← Char.ofNat_toNat c, h])
    · exact .inr (by rw [← Char.ofNat_toNat c, h])

theorem plain_iff (c : Char) : Plain c ↔ HostChar c ∨ Variant c := by
  rw [hostChar_iff, variant_iff]
  simp only [Plain, plainCodes, smallLetters, List.mem_append, List.mem_map, List.mem_range,
    List.mem_cons, List.not_mem_nil, or_false]
  constructor
  · rintro (((⟨n, hn, heq⟩ | hvariant) | ⟨n, hn, heq⟩) | hhyphen)
    · exact .inl (by omega)
    · exact .inr hvariant
    · exact .inl (by omega)
    · exact .inl (by omega)
  · rintro ((hletter | hdigit | hhyphen) | hvariant)
    · exact .inl (.inl (.inl ⟨c.toNat - 97, by omega, by omega⟩))
    · exact .inl (.inr ⟨c.toNat - 48, by omega, by omega⟩)
    · exact .inr hhyphen
    · exact .inl (.inl (.inr hvariant))

theorem Plain.isLabelChar {c : Char} (h : Plain c) : isLabelChar c = true := by
  obtain ⟨n, hn, rfl⟩ := h.eq_ofNat
  have hcodes : ∀ n ∈ plainCodes, Domain.isLabelChar (Char.ofNat n) = true := by
    decide +kernel
  exact hcodes n hn

-- What a label of host names shows: none of its characters is a blank, a control or beyond ASCII.
theorem HostChar.visible {c : Char} (h : HostChar c) : 0x20 < c.toNat ∧ c.toNat < 0x7F := by
  have hcode := (hostChar_iff c).mp h
  omega

theorem Variant.toNat_ge {c : Char} (h : Variant c) : 0x7F < c.toNat := by
  have hcode := (variant_iff c).mp h
  omega

end Characters

section Labels

theorem LabelOf.mono {kind kind' : Char → Prop} {label : List Char} (h : LabelOf kind label)
    (hkind : ∀ c ∈ label, kind c → kind' c) : LabelOf kind' label :=
  ⟨h.length, fun c hc => hkind c hc (h.chars c hc), h.first, h.last⟩

-- Of a label in lower case it is asked whether it is loose.
theorem isLabel_iff {label : List Char}
    (hlower : ∀ c ∈ label, isLabelChar c = true → Plain c) :
    isLabel label = true ↔ LooseLabel label := by
  constructor
  · intro h
    simp only [isLabel, Bool.and_eq_true, decide_eq_true_eq, List.all_eq_true, bne_iff_ne] at h
    obtain ⟨⟨⟨⟨hleast, hmost⟩, hchars⟩, hfirst⟩, hlast⟩ := h
    have hbody : LabelOf (fun c => HostChar c ∨ Variant c) (withoutLineEnd label) := by
      refine ⟨⟨hleast, hmost⟩, fun c hc => ?_, hfirst, hlast⟩
      exact (plain_iff c).mp (hlower c (mem_of_mem_withoutLineEnd hc) (hchars c hc))
    rcases withoutLineEnd_spec label with heq | heq
    · exact ⟨withoutLineEnd label, [], by rw [List.append_nil, ← heq], .inl rfl, hbody⟩
    · exact ⟨withoutLineEnd label, ['\n'], heq, .inr rfl, hbody⟩
  · rintro ⟨body, ending, rfl, hending, hbody⟩
    have hchars : ∀ c ∈ body, isLabelChar c = true :=
      fun c hc => ((plain_iff c).mpr (hbody.chars c hc)).isLabelChar
    have hcut : withoutLineEnd (body ++ ending) = body := by
      rcases hending with rfl | rfl
      · obtain ⟨front, c, rfl⟩ := (List.eq_nil_or_concat body).resolve_left
          (List.ne_nil_of_length_pos hbody.length.1)
        rw [List.append_nil]
        refine withoutLineEnd_of_last (c := c) (by simp) (ne_lf_of_isLabelChar (hchars c ?_))
        simp
      · exact withoutLineEnd_append body
    simp only [isLabel, hcut, Bool.and_eq_true, decide_eq_true_eq, List.all_eq_true, bne_iff_ne]
    exact ⟨⟨⟨hbody.length, hchars⟩, hbody.first⟩, hbody.last⟩

-- A loose label is a label of host names as soon as it has none of the three characters that
-- those do not have.
theorem LooseLabel.labelOf_iff {label : List Char} (h : LooseLabel label) :
    LabelOf HostChar label ↔ ∀ c ∈ label, c ≠ '\n' ∧ ¬Variant c := by
  constructor
  · intro hlabel c hc
    obtain ⟨hlow, hhigh⟩ := (hlabel.chars c hc).visible
    refine ⟨?_, fun hvariant => ?_⟩
    · rintro rfl
      exact absurd hlow (by decide)
    · have hbeyond := hvariant.toNat_ge
      omega
  · intro hnone
    obtain ⟨body, ending, rfl, rfl | rfl, hbody⟩ := h
    · rw [List.append_nil] at hnone ⊢
      exact hbody.mono fun c hc hkind => hkind.resolve_right (hnone c hc).2
    · exact absurd rfl (hnone '\n' (by simp)).1

end Labels

section Names

theorem mem_labels {name : String} {c : Char} {label : List Char} (hlabel : label ∈ labels name)
    (hc : c ∈ label) : c ∈ name.toList := by
  rw [eq_intercalate_splitOn '.' name.toList]
  exact mem_intercalate_of_mem hlabel hc

theorem ne_nil_of_several {name : String} (h : 2 ≤ (labels name).length) : 1 ≤ name.length := by
  by_contra hzero
  have hnil : name.toList = [] := by
    rw [← List.length_eq_zero_iff, String.length_toList]
    omega
  rw [labels, hnil] at h
  exact absurd h (by decide)

-- A name is legal if its normal form has loose labels, and the last of them are known.
theorem isValid_iff (registrable : List String → Bool) (name : String) :
    isValid registrable name = true ↔ NameOf LooseLabel (normalize name) ∧
      registrable ((labels (normalize name)).map String.ofList) = true := by
  have hlower : ∀ c ∈ (normalize name).toList, isLabelChar c = true → Plain c := by
    intro c hc hchar
    rw [normalize, onString, String.toList_ofList] at hc
    exact plain_of_mem_lower hc hchar
  have hlabels : (labels (normalize name)).all isLabel = true ↔
      ∀ label ∈ labels (normalize name), LooseLabel label := by
    rw [List.all_eq_true]
    exact forall₂_congr fun label hlabel => isLabel_iff fun c hc => hlower c (mem_labels hlabel hc)
  simp only [isValid, Bool.and_eq_true, decide_eq_true_eq, hlabels]
  constructor
  · rintro ⟨⟨⟨⟨-, hlength⟩, hseveral⟩, heach⟩, hknown⟩
    exact ⟨⟨hlength, hseveral, heach⟩, hknown⟩
  · rintro ⟨⟨hlength, hseveral, heach⟩, hknown⟩
    exact ⟨⟨⟨⟨ne_nil_of_several hseveral, hlength⟩, hseveral⟩, heach⟩, hknown⟩

theorem NameOf.hostName_iff {name : String} (h : NameOf LooseLabel name) :
    HostName name ↔ ∀ c ∈ name.toList, c ≠ '\n' ∧ ¬Variant c := by
  constructor
  · intro hhost c hc
    rcases mem_of_splitOn '.' hc with rfl | ⟨label, hlabel, hmem⟩
    · exact ⟨by decide, by rw [variant_iff]; decide⟩
    · exact ((h.each label hlabel).labelOf_iff.mp (hhost.each label hlabel)) c hmem
  · intro hnone
    refine ⟨h.length, h.several, fun label hlabel => ?_⟩
    exact (h.each label hlabel).labelOf_iff.mpr fun c hc => hnone c (mem_labels hlabel hc)

theorem HostName.visible {name : String} (h : HostName name) :
    ∀ c ∈ name.toList, 0x20 < c.toNat ∧ c.toNat < 0x7F := by
  intro c hc
  rcases mem_of_splitOn '.' hc with rfl | ⟨label, hlabel, hmem⟩
  · decide
  · exact ((h.each label hlabel).chars c hmem).visible

end Names

-- A name that is let through is a host name, but for a line end behind a label and for the two small
-- letters of other scripts that are variants of letters of ASCII.
theorem hostName_of_isValid {registrable : List String → Bool} {name : String}
    (h : isValid registrable name = true) :
    NameOf LooseLabel (normalize name) ∧
      (HostName (normalize name) ↔
        ∀ c ∈ (normalize name).toList, c ≠ '\n' ∧ c ≠ '\u0131' ∧ c ≠ '\u017F') ∧
      (HostName (normalize name) →
        ∀ c ∈ (normalize name).toList, 0x20 < c.toNat ∧ c.toNat < 0x7F) := by
  have hloose := ((isValid_iff registrable name).mp h).1
  refine ⟨hloose, ?_, HostName.visible⟩
  simp only [hloose.hostName_iff, Variant, not_or]

-- Names below "com", by their labels.
def belowCom (labels : List String) : Bool :=
  1 < labels.length && labels.getLast? == some "com"

-- A line end behind a label is let through, and so is a dotless i.
theorem strayNames_valid :
    let legal := isValid belowCom
    (legal "a\n.com" = true ∧ ¬HostName (normalize "a\n.com")) ∧
      (legal "\u0131.com" = true ∧ ¬HostName (normalize "\u0131.com")) ∧
      legal "Mail.Example.COM." = true ∧ HostName (normalize "Mail.Example.COM.") := by
  intro legal
  have hline : legal "a\n.com" = true := by decide +kernel
  have hdotless : legal "\u0131.com" = true := by decide +kernel
  have hmail : legal "Mail.Example.COM." = true := by decide +kernel
  obtain ⟨-, hline', -⟩ := hostName_of_isValid hline
  obtain ⟨-, hdotless', -⟩ := hostName_of_isValid hdotless
  obtain ⟨-, hmail', -⟩ := hostName_of_isValid hmail
  have hplain : (normalize "Mail.Example.COM.").toList.all
      (fun c => c != '\n' && c != '\u0131' && c != '\u017F') = true := by decide +kernel
  refine ⟨⟨hline, fun hhost => ?_⟩, ⟨hdotless, fun hhost => ?_⟩, hmail, hmail'.mpr fun c hc => ?_⟩
  · exact (hline'.mp hhost '\n' (by decide +kernel)).1 rfl
  · exact (hdotless'.mp hhost '\u0131' (by decide +kernel)).2.1 rfl
  · simpa only [Bool.and_eq_true, bne_iff_ne, and_assoc] using List.all_eq_true.mp hplain c hc

end StrictTransport.Domain
