import BotGateway.Proofs.Webhook.Watched
import BotGateway.Webhook.Routes
import Mathlib.Data.List.Induction

/-! Routes as they are registered: for each path the last registration counts. Routes under watch,
and routes all of whose handlers end or fail in an ordinary way. -/
namespace BotGateway.Routes
variable {world : Type}

def watched (routes : Routes world) : Routes (Watched world) :=
  routes.map fun (path,ingress) => (path,Watched.serving ingress)

theorem watchedIngress (routes : Routes world) (path : Text) :
    routes.watched.ingress? path = (routes.ingress? path).map Watched.serving := by
  induction routes with
  | nil => rfl
  | cons route rest ih =>
    obtain ⟨p,ingress⟩ := route
    simp only [watched,ingress?,List.map_cons,List.lookup_cons] at ih ⊢
    cases path == p with
    | true => rfl
    | false => exact ih

def Ordinary (routes : Routes world) : Prop :=
  ∀ path ingress, routes.ingress? path = some ingress → ∀ body scene failure,
    ((ingress.handler.runBlocking body).perform scene).1 = .error failure →
      failure.kind.isOrdinary = true

abbrev Registrations (world : Type) := List (Text × Ingress world)

def registerAll (backend : Text) (made : Registrations world) : Action world (Routes world) :=
  made.foldlM (fun routes (path,ingress) => routes.register backend path ingress) []

def table (made : Registrations world) : Routes world :=
  made.foldl (fun routes (path,ingress) => put path ingress routes) []

def lastFor (made : Registrations world) (path : Text) : Option (Ingress world) :=
  made.reverse.lookup path

theorem putIngress (path key : Text) (ingress : Ingress world) (routes : Routes world) :
    (put path ingress routes).ingress? key =
      if key = path then some ingress else routes.ingress? key := by
  induction routes with
  | nil =>
    by_cases same : key = path
    · simp [put,ingress?,same]
    · simp [put,ingress?,same]
  | cons route rest ih =>
    obtain ⟨p,i⟩ := route
    simp only [put,ingress?] at ih ⊢
    by_cases here : p = path
    · subst here
      by_cases same : key = p
      · simp [same]
      · simp [List.lookup_cons,beq_false_of_ne same,same]
    · simp only [beq_iff_eq,here,if_false,List.lookup_cons,ih]
      by_cases same : key = p
      · simp [same,here]
      · simp [beq_false_of_ne same]

theorem tableLast (made : Registrations world) (path : Text) :
    (table made).ingress? path = lastFor made path := by
  induction made using List.reverseRecOn with
  | nil => rfl
  | append_singleton before registration ih =>
    obtain ⟨p,ingress⟩ := registration
    simp only [table,lastFor,List.foldl_append,List.foldl_cons,List.foldl_nil,putIngress,
      List.reverse_append,List.reverse_cons,List.reverse_nil,List.nil_append,List.singleton_append,
      List.lookup_cons] at ih ⊢
    rw [ih]
    by_cases same : path = p
    · simp [same]
    · simp [beq_false_of_ne same,same]

theorem registerAllTable (backend : Text) (made : Registrations world) (scene : Scene world) :
    ((registerAll backend made).perform scene).1 = .ok (table made) := by
  unfold registerAll table
  generalize ([] : Routes world) = routes
  induction made generalizing routes scene with
  | nil => rfl
  | cons registration rest ih =>
    obtain ⟨path,ingress⟩ := registration
    rw [List.foldlM_cons,List.foldl_cons,Action.perform_bind]
    exact ih _ _

end BotGateway.Routes
