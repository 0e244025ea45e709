import MeshFirmware.Discovery
import MeshFirmware.Interface

/-!
# Neighbours

The nodes that can be reached over the mesh are found by asking all nodes of each mesh interface about
themselves. An answer counts if it is JSON with a node id that has not been accepted yet, and a judge
decides on it.
-/

namespace MeshFirmware

/-- A node that answered. -/
structure Neighbour (α : Type) where
  nodeId : String
  address : Ipv6
  /-- The interface that the question was sent on. -/
  interface : Interface
  payload : Option α := none
  deriving Repr

namespace Neighbour
variable {α τ : Type}

/-- The question that nodes answer with what they are. -/
def question : String := "nodeinfo"

/-- Decides whether a new neighbour is kept, and may change it. The judge has a state of its own; when it
fails the neighbour is not kept. -/
abbrev Judge (τ α : Type) := τ → Json.Value → Neighbour α → (Except String Bool × Neighbour α) × τ

/-- The neighbours found so far, the ids they were accepted under, and the state of the judge. -/
structure Gathering (τ α : Type) where
  found : List (Neighbour α) := []
  seen : List String := []
  state : τ

/-- The node id in an answer. -/
def nodeId? (v : Json.Value) : Option String := (v.get? "node_id").bind Json.Value.asText?

/-- Takes an answer to a question on an interface. -/
def accept (judge : Judge τ α) (i : Interface) (g : Gathering τ α) (r : Discovery.Response) :
    Gathering τ α :=
  if r.index == 0 then g
  else match Json.Value.read? r.data with
    | none => g
    | some v =>
      match nodeId? v with
      | none => g
      | some id =>
        if g.seen.contains id then g
        else
          match judge g.state v { nodeId := id, address := r.source, interface := i } with
          | ((.ok true, n), state) => ⟨g.found ++ [n], g.seen ++ [n.nodeId], state⟩
          | (_, state) => { g with state }

/-- The handler of the answers on an interface. It never ends a request. -/
def handler (judge : Judge τ α) (i : Interface) : Discovery.Handler (Gathering τ α) :=
  fun g r => (.goOn, accept judge i g r)

/-- What is asked, where and for how long. -/
structure Search where
  /-- The protocols of mesh interfaces. -/
  protocols : List String
  port : UInt16
  /-- How long answers on an interface are waited for, in nanoseconds. -/
  budget : Nat
  deriving DecidableEq, Repr

/-- Whether an interface is asked on. -/
def Search.covers (s : Search) (i : Interface) : Bool := i.up && i.isMesh s.protocols

/-- The question for an interface. -/
def Search.query (s : Search) (i : Interface) : Discovery.Query :=
  ⟨⟨Discovery.allNodes, s.port, i.index⟩, question, s.budget⟩

/-- Answers a question, when these have been asked before. -/
abbrev Air := List Discovery.Query → Discovery.Query → Discovery.Conversation

/-- A request on an interface that failed. -/
structure Failure where
  interface : String
  problem : String
  deriving DecidableEq, Repr

/-- The message for a failed request. -/
def Failure.message (f : Failure) : String := s!"discover neighbours on {f.interface}: {f.problem}"

/-- A round of questions: those asked, those that failed, and what the answers brought. -/
structure Round (τ α : Type) where
  asked : List Discovery.Query := []
  failures : List Failure := []
  gathering : Gathering τ α

/-- Asks on one interface, if it is to be asked on. -/
def askOn (air : Air) (search : Search) (judge : Judge τ α) (r : Round τ α) (i : Interface) : Round τ α :=
  if search.covers i then
    let query := search.query i
    let talk := air r.asked query
    { asked := r.asked ++ [query]
      failures := r.failures ++ (talk.ending.account?.map (Failure.mk i.name)).toList
      gathering := talk.responses.foldl (accept judge i) r.gathering }
  else r

/-- Asks on all interfaces in their order. -/
def askAll (air : Air) (search : Search) (judge : Judge τ α) (state : τ) (is : List Interface) :
    Round τ α :=
  is.foldl (askOn air search judge) { gathering := { state } }

/-- The neighbours of a round, in the order of their answers. The round fails if every request of it did,
with the last failure. -/
def Round.result (r : Round τ α) : Except Failure (List (Neighbour α)) :=
  match r.failures.getLast? with
  | some f => if r.failures.length = r.asked.length then .error f else .ok r.gathering.found
  | none => .ok r.gathering.found

/-- The neighbours that can be found on these interfaces. -/
def collect (air : Air) (search : Search) (judge : Judge τ α) (state : τ) (is : List Interface) :
    Except Failure (List (Neighbour α)) :=
  (askAll air search judge state is).result

end Neighbour

end MeshFirmware
