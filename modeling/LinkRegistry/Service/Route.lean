import LinkRegistry.Text.Split

/-!
# Routes

**Input.** Method and path of a request.

**Rule.** The collection of links is at `/connections`, each link below it at its id, which
is one segment with at least one character.  Links are deleted at the segment
`delete` of the collection, and a range is allowed at the segment `allow-ip` of a link.
A line feed at the end of a path does not count for a segment that is not an id.  A path that
would be known without the slashes at its end is redirected.

**Results.** The path of an id without a slash leads to that id
(`actions_linkPath`).
-/

namespace LinkRegistry
namespace Service

/-- What a request asks for. -/
inductive Action where
  | upsert
  | list
  | delete
  | fetch (id : String)
  | patch (id : String)
  | allow (id : String)
  deriving DecidableEq

/-- The last segment of a path has this name. -/
def isNamed (name : String) (segment : List Char) : Bool :=
  segment == name.toList || segment == name.toList ++ ['\n']

/-- The methods that a path knows, and what they ask for. -/
def actions (path : String) : List (String × Action) :=
  match Text.split '/' path.toList with
  | [[], top] =>
      if isNamed "connections" top then [("POST", .upsert), ("GET", .list)] else []
  | [[], top, id] =>
      if top = "connections".toList ∧ id ≠ [] then
        [("GET", .fetch (String.ofList id)), ("PATCH", .patch (String.ofList id))] ++
          if isNamed "delete" id then [("POST", .delete)] else []
      else []
  | [[], top, id, last] =>
      if top = "connections".toList ∧ id ≠ [] ∧ isNamed "allow-ip" last then
        [("POST", .allow (String.ofList id))]
      else []
  | _ => []

/-- The path without the slashes at its end. -/
def withoutFinalSlashes (path : String) : String :=
  String.ofList (path.toList.reverse.dropWhile (· == '/')).reverse

/-- The known path that an unknown one is redirected to. -/
def redirect? (path : String) : Option String :=
  let shorter := withoutFinalSlashes path
  if (actions shorter).isEmpty then none else some shorter

/-- Path of a link. -/
def linkPath (id : String) : String :=
  "/connections/" ++ id

theorem split_of_not_mem {sep : Char} {cs : List Char} (h : sep ∉ cs) :
    Text.split sep cs = [cs] := by
  induction cs with
  | nil => rfl
  | cons c cs ih =>
      simp only [List.mem_cons, not_or] at h
      simp [Text.split, Ne.symm h.1, ih h.2]

/-- The path of an id without a slash knows the two ways to ask for the link with the id, before
whatever else it is the path of. -/
theorem actions_linkPath {id : String} (nonempty : id ≠ "") (slash : '/' ∉ id.toList) :
    ∃ others, actions (linkPath id) =
      ("GET", .fetch id) :: ("PATCH", .patch id) :: others := by
  have segments : Text.split '/' (linkPath id).toList =
      [[], "connections".toList, id.toList] := by
    simp [linkPath, String.toList_append, Text.split, split_of_not_mem slash]
  have chars : id.toList ≠ [] := by
    simpa using nonempty
  refine ⟨if isNamed "delete" id.toList then [("POST", .delete)] else [], ?_⟩
  simp [actions, segments, chars]

end Service
end LinkRegistry
