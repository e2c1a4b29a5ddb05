import Mathlib.Data.List.Infix
import Survey.Proofs.Graph.Roles
import Survey.Proofs.Inspection.Exposure
import Survey.Proofs.Text.Lines

/-!
Routes that change data for anyone who asks. The report is compared with the facts of a module: what
it exports and asks for, which data it accesses, which checks its code shows, and where it is served.
-/
namespace Survey.Exposure

variable {g : Graph} {m : Module} {file : String}

/-- The methods that a module handles by name: those it exports, or else those that its code asks
for. -/
def handled (m : Module) : List String :=
  let exported := (m.exports.map Export.name).filter
    (· ∈ ["GET", "POST", "PUT", "PATCH", "DELETE", "HEAD", "OPTIONS"])
  if exported = [] then m.requestMethods else exported

/-- A handler of requests that write to data, without a check of who asks, at an address that is not
meant to be open. -/
structure Unprotected (m : Module) : Prop where
  handles : Role.routeHandler ∈ m.roles
  accesses : m.dataAccess ≠ []
  unchecked : ∀ signal ∈ m.authSignals,
    signal ∉ ["auth()", "getServerSession", "getSession", "currentUser", "withAuth"]
  writes : ∃ method ∈ handled m, method ∈ ["POST", "PUT", "DELETE", "PATCH"]
  closed : ∀ marker ∈ ["webhook", "cron", "health", "auth", "public", "register", "login"],
    ¬ marker.toList <:+: (Text.lowercaseAscii (Roles.routePath m.path)).toList

instance decidableUnprotected (m : Module) : Decidable (Unprotected m) :=
  decidable_of_iff (Role.routeHandler ∈ m.roles ∧ m.dataAccess ≠ [] ∧
    (∀ signal ∈ m.authSignals,
      signal ∉ ["auth()", "getServerSession", "getSession", "currentUser", "withAuth"]) ∧
    (∃ method ∈ handled m, method ∈ ["POST", "PUT", "DELETE", "PATCH"]) ∧
    ∀ marker ∈ ["webhook", "cron", "health", "auth", "public", "register", "login"],
      ¬ marker.toList <:+: (Text.lowercaseAscii (Roles.routePath m.path)).toList)
    ⟨fun ⟨handles, accesses, unchecked, writes, closed⟩ =>
      ⟨handles, accesses, unchecked, writes, closed⟩,
    fun h => ⟨h.handles, h.accesses, h.unchecked, h.writes, h.closed⟩⟩

section Conditions

theorem isServerAuth_iff {signal : String} : Signals.isServerAuth signal ↔
    signal ∈ ["auth()", "getServerSession", "getSession", "currentUser", "withAuth"] := by
  simp [Signals.isServerAuth, Signals.authMarkers, @eq_comm _ signal]

/-- The mark for a missing check is none of the marks of a check. -/
theorem isAuthenticated_iff : (Route.ofModule m).isAuthenticated ↔
    ∃ signal ∈ m.authSignals, Signals.isServerAuth signal := by
  have apart : ¬ Signals.isServerAuth noAuth := by decide
  rw [Route.isAuthenticated, bne_iff_ne]
  change (m.authSignals.find? Signals.isServerAuth).getD noAuth ≠ noAuth ↔ _
  cases found : m.authSignals.find? Signals.isServerAuth with
  | none =>
      refine iff_of_false (fun differs => differs rfl) ?_
      rintro ⟨signal, held, server⟩
      exact List.find?_eq_none.mp found signal held server
  | some signal =>
      have server := List.find?_some found
      refine iff_of_true ?_ ⟨signal, List.mem_of_find?_eq_some found, server⟩
      rintro rfl
      exact apart server

theorem methods_eq (m : Module) : m.methods = if handled m = [] then ["ALL"] else handled m := by
  have exported : (m.exports.map Export.name).filter Naming.httpMethods.contains =
      (m.exports.map Export.name).filter
        (· ∈ ["GET", "POST", "PUT", "PATCH", "DELETE", "HEAD", "OPTIONS"]) := by
    apply List.filter_congr
    intro name _
    rw [Bool.eq_iff_iff, List.contains_iff_mem, decide_eq_true_iff]
    rfl
  unfold Module.methods handled
  rw [exported]
  generalize (m.exports.map Export.name).filter _ = names
  cases names with
  | nil => cases m.requestMethods <;> rfl
  | cons name names => rfl

/-- A module that handles no method by name handles all, and is not counted as one that writes. -/
theorem isMutating_iff : (Route.ofModule m).isMutating ↔
    ∃ method ∈ handled m, method ∈ ["POST", "PUT", "DELETE", "PATCH"] := by
  simp only [Route.isMutating, List.any_eq_true, List.contains_iff_mem]
  change (∃ method ∈ m.methods, _) ↔ _
  rw [methods_eq]
  split
  · next none => simp [none]
  · rfl

theorem entities_eq_nil_iff : (Route.ofModule m).entities = [] ↔ m.dataAccess = [] := by
  change (m.dataAccess.map DataAccess.entity).eraseDups = [] ↔ _
  cases m.dataAccess with
  | nil => simp
  | cons access rest => simp [List.eraseDups_cons]

theorem isOpen_iff {route : String} : isOpen route ↔
    ∃ marker ∈ ["webhook", "cron", "health", "auth", "public", "register", "login"],
      marker.toList <:+: (Text.lowercaseAscii route).toList := by
  simp only [isOpen, openMarkers, List.any_eq_true, Text.holds_iff]

theorem isUnguarded_iff :
    m.has .routeHandler && isUnguarded (Route.ofModule m) ↔ Unprotected m := by
  simp only [isUnguarded, Bool.and_eq_true, Bool.not_eq_true', Bool.eq_false_iff, ne_eq,
    Module.has_iff, List.isEmpty_iff, entities_eq_nil_iff, isAuthenticated_iff, isServerAuth_iff,
    isMutating_iff, isOpen_iff, not_exists, not_and]
  constructor
  · rintro ⟨handles, ⟨⟨accesses, unchecked⟩, writes⟩, closed⟩
    exact ⟨handles, accesses, unchecked, writes, closed⟩
  · rintro ⟨handles, accesses, unchecked, writes, closed⟩
    exact ⟨handles, ⟨⟨accesses, unchecked⟩, writes⟩, closed⟩

end Conditions

section Report

/-- A finding in a file that data is changed for anyone. -/
def callsUnguarded (file : String) (f : Finding) : Bool :=
  f.title == "Unauthenticated data mutation" && f.file == some file

@[simp] theorem callsUnguarded_unguarded (r : Route) :
    callsUnguarded file (unguarded r) = (r.file == file) := by
  simp [callsUnguarded, unguarded]

@[simp] theorem callsUnguarded_dangerous (m : Module) (pattern : String) :
    callsUnguarded file (dangerous m pattern) = false := by
  have titles := title_dangerous_ne (by decide : "Unauthenticated data mutation".toList.head? ≠ _)
    m pattern
  simp [callsUnguarded, titles]

@[simp] theorem callsUnguarded_readInside (s : Settings) (c : Component) (v : String) :
    callsUnguarded file (readInside s c v) = false := by
  simp [callsUnguarded, readInside]

@[simp] theorem callsUnguarded_readThrough (c : Component) (library v : String) :
    callsUnguarded file (readThrough c library v) = false := by
  simp [callsUnguarded, readThrough]

theorem unguarded_routes (filed : g.Filed) : (g.routes.filter isUnguarded).map unguarded =
    (g.modules.filter fun m => m.has .routeHandler && isUnguarded (Route.ofModule m)).map
      fun m => unguarded (Route.ofModule m) := by
  rw [filed.routes, List.filter_map, List.map_map, List.filter_filter]
  simp only [Function.comp_def, Bool.and_comm]

theorem filter_callsUnguarded (filed : g.Filed) (nodup : g.ids.Nodup) (settings : Settings)
    (member : m ∈ g.modules) :
    (inspector.findings g settings).filter (callsUnguarded m.path) =
      if m.has .routeHandler && isUnguarded (Route.ofModule m) then [unguarded (Route.ofModule m)]
      else [] := by
  have components : ((g.components.filter (·.renderKind == .client)).flatMap
      (ofComponent g settings)).filter (callsUnguarded m.path) = [] := by
    simp [ofComponent, List.filter_flatMap, List.filter_map, Function.comp_def]
  have constructs : ((g.modules.filter fun m => m.has .routeHandler || m.has .library).flatMap
      fun m => m.dangerousPatterns.map (dangerous m)).filter (callsUnguarded m.path) = [] := by
    simp [List.filter_flatMap, List.filter_map, Function.comp_def]
  change List.filter _ (_ ++ _ ++ _) = _
  rw [List.filter_append, List.filter_append, components, constructs, List.append_nil,
    List.append_nil, unguarded_routes filed]
  refine Keyed.filter_map_of_unique nodup member ?_
  intro n _
  rw [callsUnguarded_unguarded, beq_iff_eq]
  rfl

/-- Of modules with distinct paths the unprotected ones are reported as errors, once each in their
file, and no other is. -/
theorem unprotected_called_once (modules : List Module) (schema : Schema) (settings : Settings)
    (nodup : (modules.map Module.path).Nodup) (m : Module) (member : m ∈ modules) :
    (Unprotected m →
      (inspector.findings (Graph.build modules schema) settings).filter (callsUnguarded m.path) =
        [unguarded (Route.ofModule m)] ∧
      (unguarded (Route.ofModule m)).severity = .error) ∧
    (¬ Unprotected m →
      (inspector.findings (Graph.build modules schema) settings).filter (callsUnguarded m.path) =
        []) := by
  rw [filter_callsUnguarded (Graph.filed_build modules schema)
    (Graph.nodup_ids_build modules schema) settings ((Graph.mem_modules_build_of_nodup nodup).mpr member), ← isUnguarded_iff]
  constructor
  · intro unprotected
    exact ⟨if_pos unprotected, rfl⟩
  · intro other
    exact if_neg other

/-- A handler without named exports, which asks for the method and shows a check that protects pages
only. -/
def payments : Module where
  path := "pages/api/Payments.ts"
  roles := [.routeHandler]
  exports := [⟨"handler", .default, false, none⟩]
  requestMethods := ["GET", "DELETE"]
  dataAccess := [⟨"payment", "delete"⟩, ⟨"payment", "findMany"⟩]
  authSignals := ["useSession"]

/-- The same at an address that is meant to be open. -/
def paymentHook : Module :=
  { payments with path := "pages/api/WebHooks/payments.ts" }

theorem payments_called_unguarded :
    Unprotected payments ∧ ¬ Unprotected paymentHook ∧
    (inspector.findings (Graph.build [paymentHook, payments] {}) {}).filter
      (callsUnguarded "pages/api/Payments.ts") = [unguarded (Route.ofModule payments)] ∧
    (inspector.findings (Graph.build [paymentHook, payments] {}) {}).filter
      (callsUnguarded "pages/api/WebHooks/payments.ts") = [] := by
  have nodup : ([paymentHook, payments].map Module.path).Nodup := by decide
  have unprotected : Unprotected payments := by decide +kernel
  have spared : ¬ Unprotected paymentHook := by decide +kernel
  refine ⟨unprotected, spared, ?_, ?_⟩
  · exact ((unprotected_called_once _ {} {} nodup payments (by simp)).1 unprotected).1
  · exact (unprotected_called_once _ {} {} nodup paymentHook (by simp)).2 spared

end Report

end Survey.Exposure
