import Mathlib.Algebra.Group.Nat.Defs
import PropertyTyping.File.Load
import PropertyTyping.Proofs.JsonPlain
import PropertyTyping.Proofs.ReportDocument

/-! Reports that are kept in files. The document of a report is plain, so its file holds one octet
for each character of it, and the file is loaded as the report that was printed. -/

namespace PropertyTyping

theorem unifyNewlines_eq_self {cs : List Char} (h : ∀ c ∈ cs, c ≠ '\r') :
    unifyNewlines cs = cs := by
  induction cs with
  | nil => rfl
  | cons c cs ih =>
      rw [List.forall_mem_cons] at h
      rw [unifyNewlines, ih h.2]
      · exact fun _ hc _ => h.1 hc
      · exact h.1

namespace Utf8

theorem decodeRun_ascii {cs : List Char} (h : ∀ c ∈ cs, c.toNat < 0x80) (position : Nat) :
    decodeRun position none (cs.flatMap String.utf8EncodeChar) = .ok (cs, []) := by
  induction cs generalizing position with
  | nil => rfl
  | cons c cs ih =>
      rw [List.forall_mem_cons] at h
      have hone : String.utf8EncodeChar c = [UInt8.ofNat c.toNat] := if_pos (Nat.le_of_lt_succ h.1)
      have hnat : (UInt8.ofNat c.toNat).toNat = c.toNat :=
        Nat.mod_eq_of_lt (Nat.lt_trans h.1 (by decide))
      have hsmall : UInt8.ofNat c.toNat < 0x80 := by
        rw [UInt8.lt_iff_toNat_lt, hnat]
        exact h.1
      rw [List.flatMap_cons, hone, List.singleton_append, decodeRun, if_pos hsmall,
        ih h.2 (position + 1), hnat, Char.ofNat_toNat]
      rfl

theorem decode_ascii {cs : List Char} (h : ∀ c ∈ cs, c.toNat < 0x80) :
    decode (cs.flatMap String.utf8EncodeChar) = .ok cs := by
  rw [decode, decodeRun_ascii h]
  rfl

end Utf8

/-- A file of plain characters is read like the text that was written to it. -/
theorem FileSource.load_plain {source : FileSource} {path : Text} {cs : List Char}
    (hformat : Format.ofSuffix? (Path.ofText path).suffix = some .json)
    (hfile : source.lookup path = .file (cs.flatMap String.utf8EncodeChar))
    (hplain : ∀ c ∈ cs, Json.Plain c) :
    source.load path = (Json.parse cs).mapError .json := by
  have hread : source.read (cs.flatMap String.utf8EncodeChar) .json =
      (Json.parse cs).mapError .json := by
    rw [read, Utf8.decode_ascii fun c hc => (hplain c hc).toNat_lt]
    change (Json.parse (unifyNewlines cs)).mapError LoadFault.json = _
    rw [unifyNewlines_eq_self fun c hc => (hplain c hc).ne_return]
  rw [load, hfile]
  simp only [hformat]
  exact hread

/-- Texts without lone surrogates. -/
def Text.IsEncodable (t : Text) : Prop := ∃ cs, t = ofChars cs

theorem Text.IsEncodable.whole {t : Text} (h : t.IsEncodable) : Json.Whole t := by
  obtain ⟨cs, rfl⟩ := h
  rw [← Json.joinSurrogates_eq_self_iff]
  induction cs with
  | nil => rfl
  | cons c cs ih =>
      change Json.joinSurrogates (.scalar c :: ofChars cs) = _
      rw [Json.joinSurrogates_scalar, ih]
      rfl

namespace Report

/-- Reports with names that any file can hold. -/
def IsEncodable (r : Report) : Prop :=
  ∀ e ∈ r.entries, (∀ t ∈ e.typeName, t.IsEncodable) ∧ ∀ t ∈ e.propertyName, t.IsEncodable

theorem IsEncodable.whole {r : Report} (h : r.IsEncodable) : r.Whole := by
  intro e he
  exact ⟨fun t ht => ((h e he).1 t ht).whole, fun t ht => ((h e he).2 t ht).whole⟩

theorem countable_iff (r : Report) : r.Countable ↔ r.entries.length < 10 ^ Digits.limit :=
  Nat.length_toDigits_le_iff (by decide) (by decide)

/-- The document of a report is ASCII, whatever names it holds, and a file of it, with line ends
behind it or none, is loaded as the same report. Only a count of more digits than are read stands
in the way, and no list that a machine can hold is as long as that. -/
theorem load_document_iff {r : Report} (hnames : r.IsEncodable) {source : FileSource} {path : Text}
    {lineEnds : Nat} (hformat : Format.ofSuffix? (Path.ofText path).suffix = some .json)
    (hfile : source.lookup path = .file ((Json.render r.toValue ++
      List.replicate lineEnds '\n').flatMap String.utf8EncodeChar)) :
    (∀ c ∈ Json.render r.toValue, c.toNat < 0x80) ∧
    (source.load path = .ok r.toValue ↔ r.entries.length < 10 ^ Digits.limit) := by
  have hplain := Json.plain_render r.toValue
  refine ⟨fun c hc => (hplain c hc).toNat_lt, ?_⟩
  have hload := FileSource.load_plain hformat hfile
    (List.forall_mem_append.mpr ⟨hplain, Json.plain_replicate (.inl rfl) lineEnds⟩)
  have hblank : ∀ c ∈ List.replicate lineEnds '\n', Json.isBlank c := by
    intro c hc
    rw [List.eq_of_mem_replicate hc]
    rfl
  have hparse := r.parse_render_append_iff hblank
  rw [and_iff_right hnames.whole, countable_iff] at hparse
  rw [hload, ← hparse]
  cases Json.parse (Json.render r.toValue ++ List.replicate lineEnds '\n') with
  | ok v => exact Iff.of_eq (by simp only [Except.mapError, Except.ok.injEq])
  | error f => exact iff_of_false nofun nofun

/-- A report with names that need escapes of several kinds, and with no names. -/
def escapedNames : Report where
  entries := [⟨some "tab\t \"quote\" \\", some "del\x7F é 😀", ⟨.int, false, true⟩⟩,
    ⟨none, none, .fallback⟩]

/-- A place where every path leads to the document of that report, with a line end behind it. -/
def escapedFile : FileSource where
  find _ := .file ((Json.render escapedNames.toValue ++ List.replicate 1 '\n').flatMap
    String.utf8EncodeChar)
  indented? := none

theorem load_document_of_escapedNames :
    escapedNames.IsEncodable ∧
    Format.ofSuffix? (Path.ofText "report.json").suffix = some .json ∧
    (∀ c ∈ Json.render escapedNames.toValue, c.toNat < 0x80) ∧
    escapedFile.load "report.json" = .ok escapedNames.toValue := by
  have hnames : escapedNames.IsEncodable := by
    have hname : ∀ s : String, (Text.ofString s).IsEncodable := fun s => ⟨s.toList, rfl⟩
    simp only [Report.IsEncodable, escapedNames, List.forall_mem_cons, Option.mem_some_iff,
      forall_eq', Option.not_mem_none, List.not_mem_nil, false_imp_iff, implies_true, and_true]
    exact ⟨hname _, hname _⟩
  have hformat : Format.ofSuffix? (Path.ofText "report.json").suffix = some .json := by decide
  have hfile : escapedFile.lookup "report.json" = .file ((Json.render escapedNames.toValue ++
      List.replicate 1 '\n').flatMap String.utf8EncodeChar) := rfl
  have hcount : escapedNames.entries.length < 10 ^ Digits.limit :=
    Nat.lt_trans (by decide : 2 < Digits.limit) (Nat.lt_pow_self (by decide))
  obtain ⟨hascii, hload⟩ := load_document_iff hnames hformat hfile
  exact ⟨hnames, hformat, hascii, hload.mpr hcount⟩

end Report

end PropertyTyping
