import ApiCodegen.Description.Model

/-!
# The graph of models

A model holds another by value when one of its fields is of that model's type, nullable or not;
arrays and maps put what they hold elsewhere. A cycle of such edges needs a box on one of its
nullable edges, and one without a nullable edge cannot be represented.

`ModelGraph.reaches` searches the graph and visits no model twice. A model that is not in the graph
has no edges, so that a search from it finds nothing.
-/

namespace ApiCodegen

/-- A reference by value. -/
structure Edge where
  target : String
  field : String
  nullable : Bool
deriving DecidableEq, Repr

/-- The target of a field that holds a name by value. -/
def heldByValue : TypeExpr → Option (String × Bool)
  | .named name => some (name, false)
  | .nullable (.named name) => some (name, true)
  | _ => none

/-- The edge of a field, if it leads to one of the given models. -/
def Field.edge? (names : List String) (f : Field) : Option Edge :=
  match heldByValue f.type with
  | some (target, nullable) =>
    if names.contains target then some ⟨target, f.name, nullable⟩ else none
  | none => none

/-- The outgoing edges of models, by name. Of several models with one name the last one counts. -/
structure ModelGraph where
  nodes : List (String × List Edge)
deriving Repr

/-- Puts a node into a list sorted by name, in the place of an earlier one of that name. -/
def insertNode (name : String) (edges : List Edge) :
    List (String × List Edge) → List (String × List Edge)
  | [] => [(name, edges)]
  | (n, e) :: rest =>
    if name < n then (name, edges) :: (n, e) :: rest
    else if name = n then (name, edges) :: rest
    else (n, e) :: insertNode name edges rest

namespace ModelGraph

/-- The graph of a list of models. -/
def ofModels (models : List Model) : ModelGraph :=
  let names := models.map (·.name)
  ⟨models.foldl (fun nodes m => insertNode m.name (m.parts.filterMap (·.edge? names)) nodes) []⟩

/-- The edges that leave a model. -/
def edges (g : ModelGraph) (model : String) : List Edge :=
  (g.nodes.lookup model).getD []

/-- The models from which edges leave. -/
def sources (g : ModelGraph) : List String :=
  g.nodes.map Prod.fst

/-- The models that an edge leads to from a model; only edges that are not nullable count where
`plainOnly` is set. -/
def targets (g : ModelGraph) (plainOnly : Bool) (model : String) : List String :=
  ((g.edges model).filter fun e => !(plainOnly && e.nullable)).map (·.target)

/-- The members of `rest` that a search from `stack` comes across. Each is taken out of `rest` when
it is met, so that a cycle ends the search. -/
def searched (next : String → List String) (rest stack : List String) : List String :=
  match _met : stack.find? rest.contains with
  | none => []
  | some model => model :: searched next (rest.erase model) (next model ++ stack)
termination_by rest.length
decreasing_by
  have hmem : model ∈ rest := List.contains_iff_mem.1 (List.find?_some _met)
  have := List.length_erase_of_mem hmem
  have := List.length_pos_of_mem hmem
  omega

/-- Whether a path of at least one edge leads from one model to another, through edges that are not
nullable where `plainOnly` is set. -/
def reaches (g : ModelGraph) (start goal : String) (plainOnly : Bool) : Bool :=
  (searched (g.targets plainOnly) g.sources [start]).any fun model =>
    (g.targets plainOnly model).contains goal

/-- The first model in the order of names that holds itself without a nullable edge. -/
def plainCycle? (g : ModelGraph) : Option String :=
  g.sources.find? fun model => g.reaches model model true

/-- Whether a nullable field closes a cycle. -/
def needsBox (g : ModelGraph) (model field : String) : Bool :=
  (g.edges model).any fun e =>
    e.nullable && e.field == field && (e.target == model || g.reaches e.target model false)

end ModelGraph

end ApiCodegen
