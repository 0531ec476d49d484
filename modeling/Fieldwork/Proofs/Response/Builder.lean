import Fieldwork.Proofs.Dict
import Fieldwork.Proofs.Json.Record
import Fieldwork.Response.Error

/-!
Errors that are put together call by call. A builder keeps what it has been given so far, and each
call adds to that, so what it holds in the end is told by everything that the calls give, in their
order. The code is entered when all calls have been made, and only if none of them has given one.
-/
namespace Fieldwork.Response.Error

def Part.locationsOf : Part → List Location
  | .location l => [l]
  | .locations ls => ls
  | _ => []

def Part.extensionsOf : Part → List (String × Json.Value)
  | .extension key v => [(key, v)]
  | .extensions entries => entries
  | _ => []

def given (parts : List Part) : List (String × Json.Value) := parts.flatMap Part.extensionsOf

def lastGiven (parts : List Part) (key : String) : Option Json.Value :=
  (Json.Value.under key (given parts)).getLast?

namespace Builder

theorem call_locations (b : Builder) (part : Part) :
    (b.call part).locations = b.locations ++ part.locationsOf := by
  cases part <;> simp [call, Part.locationsOf]

theorem call_extensions (b : Builder) (part : Part) :
    (b.call part).extensions = Dict.insertAll b.extensions part.extensionsOf := by
  cases part <;> rfl

theorem calls_locations (b : Builder) (parts : List Part) :
    (parts.foldl call b).locations = b.locations ++ parts.flatMap Part.locationsOf := by
  induction parts generalizing b with
  | nil => simp
  | cons part parts ih =>
    rw [List.foldl_cons, ih, call_locations, List.flatMap_cons, List.append_assoc]

theorem calls_extensions (b : Builder) (parts : List Part) :
    (parts.foldl call b).extensions = Dict.insertAll b.extensions (given parts) := by
  induction parts generalizing b with
  | nil => rfl
  | cons part parts ih =>
    rw [List.foldl_cons, ih, call_extensions, given, given, List.flatMap_cons]
    simp only [Dict.insertAll, List.foldl_append]

end Builder

variable {message code : String} {parts : List Part} {path : Option Path} {key : String}
  {extensions : Json.Object}

theorem build_locations (message : String) (parts : List Part) (path : Option Path)
    (code : Option String) :
    (build message parts path code).locations = parts.flatMap Part.locationsOf :=
  Builder.calls_locations {} parts

theorem build_extensions (message : String) (parts : List Part) (path : Option Path)
    (code : Option String) :
    (build message parts path code).extensions = withCode (Dict.ofList (given parts)) code :=
  congrArg (withCode · code) (Builder.calls_extensions {} parts)

theorem keys_ofList_given :
    Dict.keys (Dict.ofList (given parts)) = (Dict.keys (given parts)).eraseDups :=
  Dict.keys_insertAll (d := []) List.nodup_nil _

theorem get?_ofList_given (key : String) :
    Dict.get? (Dict.ofList (given parts)) key = lastGiven parts key := by
  rw [Dict.ofList, Dict.get?_insertAll, Dict.get?_nil, Option.or_none]
  rfl

theorem mem_keys_given :
    key ∈ Dict.keys (given parts) ↔ ∃ part ∈ parts, key ∈ Dict.keys part.extensionsOf := by
  simp only [given, Dict.keys, List.map_flatMap, List.mem_flatMap]

theorem contains_given :
    Dict.contains (Dict.ofList (given parts)) key = true ↔
      ∃ part ∈ parts, key ∈ Dict.keys part.extensionsOf := by
  rw [← mem_keys_given, Dict.contains, Option.isSome_iff_ne_none, ne_eq, Dict.get?_eq_none_iff,
    not_not, keys_ofList_given, List.mem_eraseDups]

theorem withCode_of_contains (there : Dict.contains extensions "code" = true) :
    withCode extensions (some code) = extensions := by
  rw [withCode, if_pos there]

theorem withCode_of_not_contains (absent : ¬ Dict.contains extensions "code" = true) :
    withCode extensions (some code) = extensions ++ [("code", .string code)] := by
  rw [withCode, if_neg absent, Dict.insert_of_not_mem]
  rwa [← Dict.get?_eq_none_iff, ← Option.not_isSome_iff_eq_none]

theorem get?_withCode (extensions : Json.Object) (code : Option String) :
    Dict.get? (withCode extensions code) "code" =
      (Dict.get? extensions "code").or (code.map .string) := by
  cases code with
  | none => simp [withCode]
  | some c =>
    cases found : Dict.get? extensions "code" with
    | none => simp [withCode, Dict.contains, found]
    | some v => simp [withCode, Dict.contains, found]

theorem code?_build (message : String) (parts : List Part) (path : Option Path)
    (code : Option String) :
    (build message parts path code).code? =
      match lastGiven parts "code" with
      | some v => v.string?
      | none => code := by
  have entry : Dict.get? (build message parts path code).extensions "code" =
      (lastGiven parts "code").or (code.map .string) := by
    rw [build_extensions, get?_withCode, get?_ofList_given]
  rw [code?, entry]
  cases lastGiven parts "code" with
  | some v => rfl
  | none => cases code <;> rfl

/-- An error that is built by calls. It has the locations of all calls in their order. Its
extensions are what entering each given pair yields, so they stand in the order in which their keys
first came and hold what was given last. A code is entered at the end if no call has given one, and
else it changes nothing; so the code of the error is the last that has been given, if that is a
string. -/
theorem built_by_calls (message : String) (parts : List Part) (path : Option Path) :
    (∀ code, build message parts path code =
      (parts.foldl Builder.call {}).finish message path code) ∧
    (∀ code, (build message parts path code).message = message ∧
      (build message parts path code).path = path ∧
      (build message parts path code).locations = parts.flatMap Part.locationsOf) ∧
    (build message parts path none).extensions =
      (given parts).foldl (fun d e => Dict.insert d e.1 e.2) [] ∧
    Dict.keys (build message parts path none).extensions =
      (Dict.keys (given parts)).eraseDups ∧
    (∀ key, Dict.get? (build message parts path none).extensions key = lastGiven parts key) ∧
    (∀ code, (∃ part ∈ parts, "code" ∈ Dict.keys part.extensionsOf) →
      build message parts path (some code) = build message parts path none) ∧
    (∀ code, (∀ part ∈ parts, "code" ∉ Dict.keys part.extensionsOf) →
      (build message parts path (some code)).extensions =
        (build message parts path none).extensions ++ [("code", .string code)]) ∧
    ∀ code, (build message parts path code).code? =
      match lastGiven parts "code" with
      | some v => v.string?
      | none => code := by
  have plain : (build message parts path none).extensions = Dict.ofList (given parts) :=
    build_extensions message parts path none
  refine ⟨fun _ => rfl, fun code => ⟨rfl, rfl, build_locations message parts path code⟩, plain, ?_,
    ?_, ?_, ?_, code?_build message parts path⟩
  · rw [plain]
    exact keys_ofList_given
  · intro key
    rw [plain]
    exact get?_ofList_given key
  · intro code stated
    have there : Dict.contains (parts.foldl Builder.call {}).extensions "code" = true := by
      rw [Builder.calls_extensions]
      exact contains_given.mpr stated
    exact congrArg (Error.mk message _ path) (withCode_of_contains there)
  · intro code absent
    rw [build_extensions, plain]
    have unstated : ¬ Dict.contains (Dict.ofList (given parts)) "code" = true := by
      rw [contains_given]
      rintro ⟨part, mem, stated⟩
      exact absent part mem stated
    exact withCode_of_not_contains unstated

example :
    build "boom" [.extension "code" (.int 1), .extensions [("a", .null), ("code", .int 2)]] none
        (some "LATE") =
      { message := "boom", extensions := [("code", .int 2), ("a", .null)] } := by
  rfl

end Fieldwork.Response.Error
