import Mathlib.Data.List.Basic
import PropertyTyping.File.Load
import PropertyTyping.Proofs.PathNames

/-! What comes of loading a document. What the path leads to is settled first, then the format by
the name that the path ends in, and only then the content. So what a file holds, and whether
indented documents can be read, matters only where the path gets that far. -/

namespace PropertyTyping

namespace Format

/-- The endings of names that tell a format. -/
def endings : Format → List Text
  | .json => [".json"]
  | .yaml => [".yaml", ".yml"]

/-- A path tells a format if it ends in a name that has one of the endings and is longer. -/
def IsToldBy (f : Format) (path : Text) : Prop :=
  ∃ name, Path.EndsIn path name ∧ ∃ ending ∈ f.endings, ending <:+ name ∧ ending.length < name.length

theorem ofSuffix?_eq_some_iff {suffix : Text} {f : Format} :
    ofSuffix? suffix = some f ↔ suffix ∈ f.endings := by
  have hjson : Text.ofString ".yaml" ≠ Text.ofString ".json" ∧
      Text.ofString ".yml" ≠ Text.ofString ".json" := by decide
  unfold ofSuffix?
  constructor
  · intro h
    split_ifs at h with hj hy
    · cases h
      exact List.mem_singleton.mpr hj
    · cases h
      exact List.mem_pair.mpr hy
  · intro h
    cases f with
    | json => exact if_pos (List.mem_singleton.mp h)
    | yaml =>
        have hy := List.mem_pair.mp h
        have hne : suffix ≠ Text.ofString ".json" := by
          rcases hy with rfl | rfl
          · exact hjson.1
          · exact hjson.2
        rw [if_neg hne]
        exact if_pos hy

theorem exists_of_mem_endings {f : Format} {ending : Text} (h : ending ∈ f.endings) :
    ∃ t, ending = Path.dot :: t ∧ Path.dot ∉ t ∧ t ≠ [] := by
  have hall : ∀ e ∈ endings .json ++ endings .yaml,
      e = Path.dot :: e.tail ∧ Path.dot ∉ e.tail ∧ e.tail ≠ [] := by decide
  refine ⟨ending.tail, hall ending ?_⟩
  cases f with
  | json => exact List.mem_append_left _ h
  | yaml => exact List.mem_append_right _ h

/-- The format is told by the last name alone, whatever way leads to it. -/
theorem isToldBy_iff {f : Format} {path : Text} :
    f.IsToldBy path ↔ ofSuffix? (Path.ofText path).suffix = some f := by
  rw [ofSuffix?_eq_some_iff, Path.suffix, Path.name]
  change _ ↔ Path.suffixOf ((Path.namesOf path).getLast?.getD []) ∈ f.endings
  constructor
  · rintro ⟨name, hname, ending, hmem, hends⟩
    obtain ⟨t, rfl, hdot, hne⟩ := exists_of_mem_endings hmem
    rw [Path.endsIn_iff.mp hname, Option.getD_some, (Path.suffixOf_eq_iff hdot hne).mpr hends]
    exact hmem
  · intro hmem
    obtain ⟨t, ht, hdot, hne⟩ := exists_of_mem_endings hmem
    cases hlast : (Path.namesOf path).getLast? with
    | none =>
        rw [hlast] at ht
        cases ht
    | some name =>
        rw [hlast, Option.getD_some] at hmem ht
        refine ⟨name, Path.endsIn_iff.mpr hlast, _, hmem, ?_⟩
        rw [ht]
        exact (Path.suffixOf_eq_iff hdot hne).mp ht

instance (f : Format) (path : Text) : Decidable (f.IsToldBy path) :=
  decidable_of_iff _ isToldBy_iff.symm

example : Format.json.IsToldBy "data/p.v2.json/./" ∧ Format.json.IsToldBy "..json" ∧
    ¬ Format.json.IsToldBy "data/.json" ∧ ¬ Format.yaml.IsToldBy "p.yml." := by decide

end Format

/-- What paths lead to, with no difference but in what a file holds. -/
inductive Found.SameKind : Found → Found → Prop
  | missing : SameKind .missing .missing
  | nameTooLong : SameKind .nameTooLong .nameTooLong
  | directory : SameKind .directory .directory
  | file (octets others : List UInt8) : SameKind (.file octets) (.file others)

namespace FileSource

/-- What a written path leads to. The zero character is in no name, so a path with it leads
nowhere. -/
inductive LeadsTo (s : FileSource) (path : Text) : Found → Prop
  | nowhere : .scalar '\x00' ∈ path → LeadsTo s path .missing
  | somewhere : .scalar '\x00' ∉ path → LeadsTo s path (s.find (Path.ofText path))

theorem leadsTo_iff {s : FileSource} {path : Text} {found : Found} :
    LeadsTo s path found ↔ s.lookup path = found := by
  have hzero : path.contains (.scalar '\x00') ↔ .scalar '\x00' ∈ path := List.contains_iff_mem
  unfold lookup
  constructor
  · rintro (h | h)
    · rw [if_pos (hzero.mpr h)]
    · rw [if_neg (mt hzero.mp h)]
  · rintro rfl
    split
    · rename_i h
      exact .nowhere (hzero.mp h)
    · rename_i h
      exact .somewhere (mt hzero.mpr h)

/-- What comes of loading, one rule for each way it can go. -/
inductive Loads (s : FileSource) (path : Text) : Except LoadFault Value → Prop
  | nameTooLong : LeadsTo s path .nameTooLong →
      Loads s path (.error (.nameTooLong (Path.ofText path)))
  | missing : LeadsTo s path .missing → Loads s path (.error (.notFound path))
  | directory : LeadsTo s path .directory → Loads s path (.error (.isDirectory (Path.ofText path)))
  | json {octets : List UInt8} {cs : List Char} {v : Value} : LeadsTo s path (.file octets) →
      Format.json.IsToldBy path → Utf8.decode octets = .ok cs →
      Json.parse (unifyNewlines cs) = .ok v → Loads s path (.ok v)
  | malformed {octets : List UInt8} {cs : List Char} {f : Json.Fault} :
      LeadsTo s path (.file octets) → Format.json.IsToldBy path → Utf8.decode octets = .ok cs →
      Json.parse (unifyNewlines cs) = .error f → Loads s path (.error (.json f))
  | undecodable {octets : List UInt8} {f : Utf8.Fault} : LeadsTo s path (.file octets) →
      Format.json.IsToldBy path → Utf8.decode octets = .error f →
      Loads s path (.error (.undecodable f))
  | indented {octets : List UInt8} {read : IndentedReader} {v : Value} :
      LeadsTo s path (.file octets) → Format.yaml.IsToldBy path → s.indented? = some read →
      read octets = .ok v → Loads s path (.ok v)
  | refused {octets : List UInt8} {read : IndentedReader} {f : ReaderFault} :
      LeadsTo s path (.file octets) → Format.yaml.IsToldBy path → s.indented? = some read →
      read octets = .error f → Loads s path (.error (.yaml f))
  | unavailable {octets : List UInt8} : LeadsTo s path (.file octets) →
      Format.yaml.IsToldBy path → s.indented? = none → Loads s path (.error .yamlUnavailable)
  | untold {octets : List UInt8} {f : LoadFault} : LeadsTo s path (.file octets) →
      (∀ f : Format, ¬ f.IsToldBy path) → f = .unknownFormat (Path.ofText path).suffix →
      f.message = ("Unsupported input format: " : Text) ++ (Path.ofText path).suffix ++
        ". Use .json or .yaml" → Loads s path (.error f)

theorem load_of_told {s : FileSource} {path : Text} {octets : List UInt8} {f : Format}
    (h : s.lookup path = .file octets) (hf : f.IsToldBy path) :
    s.load path = s.read octets f := by
  simp only [load, h, Format.isToldBy_iff.mp hf]

theorem load_of_untold {s : FileSource} {path : Text} {octets : List UInt8}
    (h : s.lookup path = .file octets) (hf : ∀ f : Format, ¬ f.IsToldBy path) :
    s.load path = .error (.unknownFormat (Path.ofText path).suffix) := by
  have hnone : Format.ofSuffix? (Path.ofText path).suffix = none :=
    Option.eq_none_iff_forall_ne_some.mpr fun f he => hf f (Format.isToldBy_iff.mpr he)
  simp only [load, h, hnone]

theorem loads_of_told {s : FileSource} {path : Text} {octets : List UInt8} {f : Format}
    (h : LeadsTo s path (.file octets)) (hf : f.IsToldBy path) :
    Loads s path (s.read octets f) := by
  cases f with
  | json =>
      rw [read]
      cases hcs : Utf8.decode octets with
      | error f => exact .undecodable h hf hcs
      | ok cs =>
          change Loads s path ((Json.parse (unifyNewlines cs)).mapError .json)
          cases hv : Json.parse (unifyNewlines cs) with
          | error f => exact .malformed h hf hcs hv
          | ok v => exact .json h hf hcs hv
  | yaml =>
      rw [read]
      cases hread : s.indented? with
      | none => exact .unavailable h hf hread
      | some read =>
          simp only
          cases hv : read octets with
          | error f => exact .refused h hf hread hv
          | ok v => exact .indented h hf hread hv

/-- Each way that loading can go has its rule. -/
theorem loads_load (s : FileSource) (path : Text) : Loads s path (s.load path) := by
  cases h : s.lookup path with
  | missing =>
      simp only [load, h]
      exact .missing (leadsTo_iff.mpr h)
  | nameTooLong =>
      simp only [load, h]
      exact .nameTooLong (leadsTo_iff.mpr h)
  | directory =>
      simp only [load, h]
      exact .directory (leadsTo_iff.mpr h)
  | file octets =>
      by_cases hf : ∃ f : Format, f.IsToldBy path
      · obtain ⟨f, hf⟩ := hf
        rw [load_of_told h hf]
        exact loads_of_told (leadsTo_iff.mpr h) hf
      · have hnone : ∀ f : Format, ¬ f.IsToldBy path := not_exists.mp hf
        rw [load_of_untold h hnone]
        exact .untold (leadsTo_iff.mpr h) hnone rfl rfl

/-- No two rules give different outcomes. -/
theorem Loads.load_eq {s : FileSource} {path : Text} {outcome : Except LoadFault Value}
    (h : Loads s path outcome) : s.load path = outcome := by
  have hjson : ∀ {octets : List UInt8} {cs : List Char}, LeadsTo s path (.file octets) →
      Format.json.IsToldBy path → Utf8.decode octets = .ok cs →
      s.load path = (Json.parse (unifyNewlines cs)).mapError .json := by
    intro octets cs h hf hcs
    rw [load_of_told (leadsTo_iff.mp h) hf, read, hcs]
    rfl
  cases h with
  | nameTooLong h => simp only [load, leadsTo_iff.mp h]
  | missing h => simp only [load, leadsTo_iff.mp h]
  | directory h => simp only [load, leadsTo_iff.mp h]
  | json h hf hcs hv => rw [hjson h hf hcs, hv]; rfl
  | malformed h hf hcs hv => rw [hjson h hf hcs, hv]; rfl
  | undecodable h hf hcs => rw [load_of_told (leadsTo_iff.mp h) hf, read, hcs]; rfl
  | indented h hf hread hv =>
      simp only [load_of_told (leadsTo_iff.mp h) hf, read, hread, hv]
      rfl
  | refused h hf hread hv =>
      simp only [load_of_told (leadsTo_iff.mp h) hf, read, hread, hv]
      rfl
  | unavailable h hf hread => simp only [load_of_told (leadsTo_iff.mp h) hf, read, hread]
  | untold h hf hu _ => rw [load_of_untold (leadsTo_iff.mp h) hf, hu]

theorem load_congr_of_untold {s t : FileSource} {path : Text}
    (hf : ∀ f : Format, ¬ f.IsToldBy path) (h : Found.SameKind (s.lookup path) (t.lookup path)) :
    s.load path = t.load path := by
  generalize hs : s.lookup path = found at h
  generalize ht : t.lookup path = other at h
  cases h with
  | missing => simp only [load, hs, ht]
  | nameTooLong => simp only [load, hs, ht]
  | directory => simp only [load, hs, ht]
  | file octets others => rw [load_of_untold hs hf, load_of_untold ht hf]

theorem load_congr_of_json {s t : FileSource} {path : Text} (hf : Format.json.IsToldBy path)
    (h : s.lookup path = t.lookup path) : s.load path = t.load path := by
  cases ht : t.lookup path with
  | missing => simp only [load, h, ht]
  | nameTooLong => simp only [load, h, ht]
  | directory => simp only [load, h, ht]
  | file octets =>
      rw [load_of_told (h.trans ht) hf, load_of_told ht hf]
      rfl

/-- What comes of loading is settled by what the path leads to and, if that is a file, by the name
that the path ends in. So if no format is told, neither the octets of a file nor the means to read
indented documents count, and for the other format those means do not count; without them a path
that tells of an indented document is refused whatever the file holds. -/
theorem load_precedence (s t : FileSource) (path : Text) :
    (∀ outcome, s.load path = outcome ↔ Loads s path outcome) ∧
    ((∀ f : Format, ¬ f.IsToldBy path) → Found.SameKind (s.lookup path) (t.lookup path) →
      s.load path = t.load path) ∧
    (Format.json.IsToldBy path → s.lookup path = t.lookup path → s.load path = t.load path) ∧
    (Format.yaml.IsToldBy path → s.indented? = none → ∀ octets, s.lookup path = .file octets →
      s.load path = .error .yamlUnavailable) := by
  refine ⟨fun outcome => ⟨?_, Loads.load_eq⟩, load_congr_of_untold, load_congr_of_json, ?_⟩
  · rintro rfl
    exact loads_load s path
  · intro hf hmeans octets hfile
    simp only [load_of_told hfile hf, read, hmeans]

/-- A place where every path leads to a file of the same octets. -/
def everywhere (octets : List UInt8) (indented? : Option IndentedReader) : FileSource :=
  ⟨fun _ => .file octets, indented?⟩

/-- A reader of documents that are nothing but a digit. -/
def digitReader : IndentedReader
  | [c] => if 0x30 ≤ c ∧ c ≤ 0x39 then .ok (.int (c.toNat - 0x30)) else .ok (.text [])
  | _ => .error ⟨"YAMLError", "expected a single document"⟩

/-- An octet that no text has does no harm where it is not read. -/
theorem load_precedence_of_strayOctet :
    (everywhere [0xFF] digitReader).load "notes/p.json.txt" =
      (everywhere [] none).load "notes/p.json.txt" ∧
    (everywhere [0xFF] digitReader).load "..json" = (everywhere [0xFF] none).load "..json" ∧
    (everywhere [0x37] digitReader).load "p.v1.yaml" = .ok (.int 7) ∧
    (everywhere [0xFF] none).load "p.yml/" = .error .yamlUnavailable := by
  have htext := load_precedence (everywhere [0xFF] digitReader) (everywhere [] none)
    "notes/p.json.txt"
  have hjson := load_precedence (everywhere [0xFF] digitReader) (everywhere [0xFF] none) "..json"
  have hread := load_precedence (everywhere [0x37] digitReader) (everywhere [] none) "p.v1.yaml"
  have hyaml := load_precedence (everywhere [0xFF] none) (everywhere [] none) "p.yml/"
  have hnone : ∀ f : Format, ¬ f.IsToldBy "notes/p.json.txt" := by
    intro f
    cases f with
    | json => decide
    | yaml => decide
  have hloads : Loads (everywhere [0x37] digitReader) "p.v1.yaml" (.ok (.int 7)) :=
    .indented (.somewhere (by decide)) (by decide) rfl rfl
  exact ⟨htext.2.1 hnone (.file _ _), hjson.2.2.1 (by decide) rfl, (hread.1 _).mpr hloads,
    hyaml.2.2.2 (by decide) rfl [0xFF] rfl⟩

end FileSource

end PropertyTyping
