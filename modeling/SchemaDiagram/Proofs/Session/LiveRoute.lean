/-
# A route kept up to date

The route is made from the boxes and the selection alone. While the schema and the
selection stay, boxes change in two ways only: a drag moves one, and a reported height
that differs by more than one unit replaces one. Both answer with the new route, so who
starts with the route and takes each one that is answered always has the current one.

Key definitions: `Op.adjusts`, `Op.heard`, `Session.followed`, `Session.routes`.
Key theorems: `Session.heard_move`, `Session.heard_reportHeight`, `Session.heard_step`,
`Session.followed_eq_routes`.
-/
import SchemaDiagram.Proofs.Canvas.Sound
import SchemaDiagram.Proofs.Diagram.Filters
import SchemaDiagram.Proofs.Session.Cases

namespace SchemaDiagram

variable {α : Type}

/-- The operations that leave the schema and the selection: those of the pointer, the
camera and the window, reports of heights, filters, searching and scenes. -/
def Op.adjusts : Op α → Bool
  | .press _ _ _ | .move _ | .release | .wheel _ _ | .fit | .resize _ | .reportHeight _ _
  | .setFilter _ _ _ | .search _ | .scene => true
  | _ => false

/-- The known route after an operation is answered: a route that a move or a reported
height answers replaces it. -/
def Op.heard (op : Op α) (answer : Except Fault (Answer α)) (known : Route α) : Route α :=
  match op, answer with
  | .move _, .ok (.route r) => r
  | .reportHeight _ _, .ok (.route r) => r
  | _, _ => known

namespace Session

variable [Scalar α] {s : Session α}

/-! ### One operation -/

theorem heard_move (p : Point α) :
    (Op.move p).heard (s.changed routeAnswer (s.move p)).1 s.route =
      (s.changed routeAnswer (s.move p)).2.route := by
  cases hmove : s.move p with
  | error f => rfl
  | ok u =>
    obtain ⟨r, t⟩ := u
    obtain ⟨moved, c, hc, rfl, rfl⟩ := move_cases hmove
    obtain ⟨rfl, rfl⟩ | ⟨rfl, x, y, rfl⟩ | ⟨n, b, q, rfl, -, rfl⟩ := Canvas.move_cases hc
    · rfl
    · rfl
    · rfl

theorem heard_reportHeight (name : String) (height : α) :
    (Op.reportHeight name height).heard (.ok (routeAnswer (s.reportHeight name height).1)) s.route =
      (s.reportHeight name height).2.route := by
  unfold Session.reportHeight
  cases hreport : s.view.reportHeight name height with
  | mk changed v =>
    cases changed with
    | true => rfl
    | false =>
      -- a report that changes nothing leaves the view as it is
      unfold View.reportHeight at hreport
      split at hreport
      · obtain rfl := (Prod.mk.inj hreport).2
        rfl
      · split at hreport
        · obtain rfl := (Prod.mk.inj hreport).2
          rfl
        · cases hreport

variable [Sunflower α]

/-- **Every change of the route is answered**: the route known before an operation,
replaced by the one that is answered if any, is the route after it. -/
theorem heard_step (files : Files) {op : Op α} (hop : op.adjusts = true) :
    op.heard (s.step files op).1 s.route = (s.step files op).2.route := by
  have hsame : (s.route : Route α) = s.route := rfl
  cases op with
  | press at_ entity button => rfl
  | move at_ => exact heard_move at_
  | release => rfl
  | wheel at_ turn =>
    refine (of_changed (P := (·.route = s.route)) hsame .number fun x t ht => ?_).symm
    obtain ⟨c, -, rfl⟩ := wheel_cases ht
    rfl
  | fit =>
    refine (of_changed (P := (·.route = s.route)) hsame .flag fun framed t ht => ?_).symm
    obtain ⟨message, rfl⟩ | ⟨c, -, rfl⟩ := fit_cases ht
    · rfl
    · rfl
  | resize window => rfl
  | reportHeight name height => exact heard_reportHeight name height
  | setFilter name relations others =>
    exact (of_guarded (P := (·.route = s.route)) hsame .filter fun _ => rfl).symm
  | search query => rfl
  | scene =>
    show s.route = (s.setView (keepFilters s.schema s.view)).route
    rw [keepFilters_eq]
    rfl
  | _ => cases hop

/-! ### Runs -/

/-- What a client takes the route to be after each operation. -/
def followed (s : Session α) (known : Route α) : List (Files × Op α) → List (Route α)
  | [] => []
  | (files, op) :: ops =>
    let (a, t) := s.step files op
    op.heard a known :: followed t (op.heard a known) ops

/-- The route after each operation. -/
def routes (s : Session α) : List (Files × Op α) → List (Route α)
  | [] => []
  | (files, op) :: ops =>
    let t := (s.step files op).2
    t.route :: routes t ops

/-- **Edges are never stale.** In every session, a client that starts with the route and
replaces it exactly by the routes that moves of the pointer and reported heights answer
has the route after every operation, whatever presses, moves, releases, turns of the
wheel, framings, resizings, reports, filters, searches and scenes follow each other. -/
theorem followed_eq_routes (s : Session α) {ops : List (Files × Op α)}
    (hops : ∀ o ∈ ops, o.2.adjusts = true) : s.followed s.route ops = s.routes ops := by
  induction ops generalizing s with
  | nil => rfl
  | cons o ops ih =>
    rw [List.forall_mem_cons] at hops
    simp only [followed, routes, heard_step o.1 hops.1]
    rw [ih _ hops.2]

/-- A drag, a zoom and a reported height: the route changes twice, and the client knows. -/
theorem followed_eq_routes_dragging :
    letI : Sunflower ℚ := ⟨fun _ => 1, fun _ => 0, fun _ => 0⟩
    let fresh : Session ℚ := .start .stock
    let selected := (fresh.run ⟨[]⟩
      [.load "model A \x7b\n  b B\n\x7d\nmodel B \x7b\n\x7d" "a", .selectAll]).2
    let ops : List (Files × Op ℚ) := [(⟨[]⟩, .press ⟨3, 4⟩ (some "A") 0), (⟨[]⟩, .move ⟨9, 9⟩),
      (⟨[]⟩, .wheel ⟨3, 4⟩ 1), (⟨[]⟩, .reportHeight "B" 500), (⟨[]⟩, .scene)]
    (∀ o ∈ ops, o.2.adjusts = true) ∧
      selected.followed selected.route ops = selected.routes ops ∧
      (selected.route :: selected.routes ops).eraseDups.length = 3 := by
  let _ : Sunflower ℚ := ⟨fun _ => 1, fun _ => 0, fun _ => 0⟩
  intro fresh selected ops
  have hops : ∀ o ∈ ops, o.2.adjusts = true := by decide
  exact ⟨hops, followed_eq_routes selected hops, by decide +kernel⟩

end Session
end SchemaDiagram
