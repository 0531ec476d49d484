import Fieldwork.Proofs.Response.Format

/-!
Paths in JSON and on display. A path and its JSON form determine each other: what can be read as a
path is exactly what some path is written as. On display a path cannot always be told from another
one, because a key may consist of the digits of an index.
-/
namespace Fieldwork.Response

namespace PathElement

variable {v : Json.Value} {e : PathElement}

/-- The values that are read as elements: strings, and the whole numbers of 64 bits. A double is
none of them, even where it is whole. -/
inductive Form : Json.Value → Prop
  | string (s : String) : Form (.string s)
  | int (low : 0 ≤ n) (high : n ≤ 0xFFFFFFFFFFFFFFFF) : Form (.int n)

theorem written_iff : Written v e ↔ v = e.toJson := by
  constructor
  · intro written
    cases written with
    | key s => rfl
    | index n => rfl
  · rintro rfl
    exact e.written_toJson

theorem exists_written_iff : (∃ e, Written v e) ↔ Form v := by
  constructor
  · rintro ⟨e, written⟩
    cases written with
    | key s => exact .string s
    | index n =>
      have bound := n.toNat_lt
      exact .int (by omega) (by omega)
  · intro form
    cases form with
    | string s => exact ⟨.key s, .key s⟩
    | @int n low high =>
      have small : n.toNat < 2 ^ 64 := by omega
      have written := Written.index (UInt64.ofNat n.toNat)
      rw [UInt64.toNat_ofNat_of_lt' small, Int.toNat_of_nonneg low] at written
      exact ⟨_, written⟩

end PathElement

namespace Path

variable {v : Json.Value} {p q : Path}

theorem written_iff : Written v p ↔ v = p.toJson := by
  constructor
  · rintro ⟨items, rfl, written⟩
    have same : List.Forall₂ (fun item e => item = e.toJson) items p.elements :=
      written.imp fun _ _ => PathElement.written_iff.mp
    rw [← List.forall₂_map_right_iff, List.forall₂_eq_eq_eq] at same
    rw [same]
    rfl
  · rintro rfl
    exact p.written_toJson

theorem ofJson_eq_ok_iff : ofJson v = .ok p ↔ v = p.toJson :=
  (reads_path v p).trans written_iff

theorem ofJson_toJson (p : Path) : ofJson p.toJson = .ok p := ofJson_eq_ok_iff.mpr rfl

theorem toJson_injective (same : p.toJson = q.toJson) : p = q := by
  have read := ofJson_eq_ok_iff.mpr same
  rw [ofJson_toJson] at read
  exact Except.ok.inj read

theorem exists_ofJson_iff :
    (∃ p, ofJson v = .ok p) ↔ ∃ items, v = .array items ∧ ∀ item ∈ items, PathElement.Form item := by
  constructor
  · rintro ⟨p, read⟩
    obtain ⟨items, rfl, written⟩ := (reads_path v p).mp read
    refine ⟨items, rfl, fun item mem => PathElement.exists_written_iff.mp ?_⟩
    exact Json.Value.exists_forall₂_iff.mp ⟨p.elements, written⟩ item mem
  · rintro ⟨items, rfl, forms⟩
    obtain ⟨elements, written⟩ := Json.Value.exists_forall₂_iff.mpr
      fun item mem => PathElement.exists_written_iff.mpr (forms item mem)
    exact ⟨⟨elements⟩, (reads_path _ _).mpr ⟨items, rfl, written⟩⟩

theorem elements_foldl_join (p : Path) (es : List PathElement) :
    (es.foldl join p).elements = p.elements ++ es := by
  induction es generalizing p with
  | nil => simp
  | cons e es ih =>
    rw [List.foldl_cons, ih, join, List.append_assoc]
    rfl

theorem display_append (before after : List PathElement) :
    display ⟨before ++ after⟩ = display ⟨before⟩ ++ display ⟨after⟩ := by
  simp only [display, List.map_append, String.join_append]

theorem display_cons (e : PathElement) (es : List PathElement) :
    display ⟨e :: es⟩ = "/" ++ e.display ++ display ⟨es⟩ := by
  simp only [display, List.map_cons, String.join_cons]

theorem display_join (p : Path) (e : PathElement) :
    (p.join e).display = p.display ++ "/" ++ e.display := by
  have last : display ⟨[e]⟩ = "/" ++ e.display := by simp [display, String.join]
  rw [join, display_append, last, String.append_assoc]

theorem toList_display (p : Path) :
    p.display.toList = p.elements.flatMap fun e => '/' :: e.display.toList := by
  simp [display, String.toList_join, List.flatMap_map]

end Path

/-- Paths in JSON. A path that has been built from a list and by joining is read back from what it is
written as; an array is read as a path exactly if each item is the form of an element, and then it is
what that path is written as. The digits of an index may also be a key, which is displayed alike and
stays a key. A joined path has the old one as all but its last element, in its elements as on
display. -/
theorem path_format :
    (∀ start es : List PathElement,
      let p := es.foldl Path.join ⟨start⟩
      p.elements = start ++ es ∧ Path.ofJson p.toJson = .ok p) ∧
    (∀ (n : UInt64) (before after : List PathElement),
      let p : Path := ⟨before ++ .key (toString n.toNat) :: after⟩
      let q : Path := ⟨before ++ .index n :: after⟩
      p.display = q.display ∧ p.toJson ≠ q.toJson ∧
        Path.ofJson p.toJson = .ok p ∧ Path.ofJson q.toJson = .ok q) ∧
    (∀ v, (∃ p, Path.ofJson v = .ok p) ↔
      ∃ items, v = .array items ∧ ∀ item ∈ items, PathElement.Form item) ∧
    (∀ v p, Path.ofJson v = .ok p ↔ v = p.toJson) ∧
    (∀ p : Path, p.display.toList = p.elements.flatMap fun e => '/' :: e.display.toList) ∧
    ∀ (p : Path) (e : PathElement),
      (p.join e).display = p.display ++ "/" ++ e.display ∧
        (p.join e).elements.dropLast = p.elements ∧ (p.join e).last? = some e := by
  refine ⟨?_, ?_, fun v => Path.exists_ofJson_iff, fun v p => Path.ofJson_eq_ok_iff,
    Path.toList_display, ?_⟩
  · intro start es
    exact ⟨Path.elements_foldl_join ⟨start⟩ es, Path.ofJson_toJson _⟩
  · intro n before after p q
    have shown : p.display = q.display := by
      simp only [p, q, Path.display_append, Path.display_cons, PathElement.display]
    refine ⟨shown, ?_, p.ofJson_toJson, q.ofJson_toJson⟩
    intro same
    have elements := congrArg Path.elements (Path.toJson_injective same)
    simp [p, q] at elements
  · intro p e
    refine ⟨p.display_join e, ?_, ?_⟩
    · simp [Path.join]
    · simp [Path.join, Path.last?]

example :
    Path.ofJson (.array [.string "-1", .int 0, .int 18446744073709551615, .string "1.0"]) =
      .ok ⟨[.key "-1", .index 0, .index 18446744073709551615, .key "1.0"]⟩ := by
  rfl

end Fieldwork.Response
