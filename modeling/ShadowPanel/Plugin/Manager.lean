import ShadowPanel.Plugin.Ids
import Mathlib.Data.List.DropRight

namespace ShadowPanel.Plugin

open Data List

/-! The loaded plugins, of `pkg/plugin/manager.go`, and the requests for them, of
`pkg/plugin/http_handler.go`. -/

structure HTTPRoute where
  path : List Char
  methods : List (List Char)
  requiresAuth : Bool
  adminOnly : Bool
  deriving DecidableEq

structure LoadedPlugin where
  id : List Char
  runtime : Nat
  enabled : Bool
  httpRoutes : List HTTPRoute
  deriving DecidableEq

inductive LoadError where
  | managerClosed
  | pluginAlreadyLoaded (id : List Char)
  | initializationFailed (text : String)
  | withMessage (message cause : String)
  deriving DecidableEq

/-- What a module answers while it is loaded.  The result of the initialisation is the text of
its failure. -/
structure Module where
  runtime : Except String Nat
  wrapper : Except String Unit
  info : Except String (List Char)
  initialized : Except String (Option (Option String))
  httpRoutes : Except String (List HTTPRoute)

structure Manager where
  plugins : List Char → Option LoadedPlugin
  closed : Bool

/-- What `initializePlugin` does after the check for the identifier. -/
def Module.start (module : Module) (id : List Char) (runtime : Nat) :
    Except LoadError LoadedPlugin :=
  match module.initialized with
  | .error cause => .error (.withMessage "plugin initialization failed" cause)
  | .ok (some text) => .error (.initializationFailed (text.getD "unknown error"))
  | .ok none =>
    match module.httpRoutes with
    | .error cause => .error (.withMessage "failed to get HTTP routes" cause)
    | .ok httpRoutes => .ok ⟨id, runtime, true, httpRoutes⟩

namespace Manager

def initializePlugin (manager : Manager) (module : Module) (runtime : Nat) :
    Except LoadError LoadedPlugin :=
  match module.info with
  | .error cause => .error (.withMessage "failed to get plugin info" cause)
  | .ok id =>
    if (manager.plugins id).isSome then .error (.pluginAlreadyLoaded id)
    else module.start id runtime

def load (manager : Manager) (module : Module) : Except LoadError LoadedPlugin × Manager :=
  if manager.closed then (.error .managerClosed, manager)
  else
    match module.runtime with
    | .error cause => (.error (.withMessage "failed to initialize runtime" cause), manager)
    | .ok runtime =>
      match module.wrapper with
      | .error cause => (.error (.withMessage "failed to create plugin wrapper" cause), manager)
      | .ok _ =>
        match manager.initializePlugin module runtime with
        | .error error => (.error error, manager)
        | .ok plugin =>
          (.ok plugin, { manager with
            plugins := Function.update manager.plugins (normalized plugin.id) (some plugin) })

variable {manager : Manager} {id : List Char}

theorem start_cases (module : Module) (id : List Char) (runtime : Nat) :
    (∃ plugin, module.start id runtime = .ok plugin ∧ plugin.id = id) ∨
      ∃ error, module.start id runtime = .error error ∧ error ≠ .pluginAlreadyLoaded id := by
  unfold Module.start
  split
  · exact .inr ⟨_, rfl, nofun⟩
  · exact .inr ⟨_, rfl, nofun⟩
  · split
    · exact .inr ⟨_, rfl, nofun⟩
    · exact .inl ⟨_, rfl, rfl⟩

/-- A plugin is refused exactly when its identifier is a key as it declares it.  When it is not
and the plugin starts, it takes the place of what is loaded under the normalised identifier. -/
theorem load_refused_iff (isOpen : manager.closed = false) (runs : module.runtime = .ok runtime)
    (wraps : module.wrapper = .ok ()) (declared : module.info = .ok id) :
    (manager.load module = (.error (.pluginAlreadyLoaded id), manager) ↔
        (manager.plugins id).isSome = true) ∧
      ∀ plugin, (manager.load module).1 = .ok plugin →
        (manager.load module).2.plugins (normalized id) = some plugin := by
  cases key : (manager.plugins id).isSome with
  | true =>
    have refused : manager.load module = (.error (.pluginAlreadyLoaded id), manager) := by
      simp [load, isOpen, runs, wraps, initializePlugin, declared, key]
    rw [refused]
    exact ⟨iff_of_true rfl rfl, nofun⟩
  | false =>
    have passed : manager.initializePlugin module runtime = module.start id runtime := by
      simp [initializePlugin, declared, key]
    obtain ⟨plugin, started, own⟩ | ⟨error, failed, other⟩ := start_cases module id runtime
    · simp [load, isOpen, runs, wraps, passed, started, own]
    · simp [load, isOpen, runs, wraps, passed, failed, other]

def starting (id : String) (runtime : Nat) : Module :=
  ⟨.ok runtime, .ok (), .ok id.toList, .ok none, .ok []⟩

def withCompactOne : Manager := (Manager.load ⟨fun _ => none, false⟩ (starting "ae" 1)).2

theorem load_refused_iff_compact : withCompactOne.load (starting "ae" 2) =
    (.error (.pluginAlreadyLoaded "ae".toList), withCompactOne) :=
  (load_refused_iff rfl rfl rfl rfl).1.mpr rfl

theorem running_plugin_replaced :
    ((withCompactOne.load (starting "1" 2)).1 = .ok ⟨"1".toList, 2, true, []⟩) ∧
      (withCompactOne.plugins (normalized "1".toList)).isSome = true ∧
      (withCompactOne.load (starting "1" 2)).2.plugins (normalized "1".toList) =
        some ⟨"1".toList, 2, true, []⟩ := by
  decide +kernel

end Manager

def extractPluginPath (fullPath pluginID : List Char) : List Char :=
  let start := "/api/plugins/".toList ++ pluginID
  if start.isPrefixOf fullPath then
    let path := fullPath.drop start.length
    if path = [] then ['/'] else path
  else ['/']

def pathParts (path : List Char) : List (List Char) :=
  ((path.dropWhile (· == '/')).rdropWhile (· == '/')).splitOn '/'

/-- The parameters in their order; of two with one name the later counts. -/
def matchParts : List (List Char) → List (List Char) → Option (List (List Char × List Char))
  | [], [] => some []
  | pattern :: patterns, part :: parts =>
    if pattern.head? = some '\x7b' ∧ pattern.getLast? = some '\x7d' then
      (matchParts patterns parts).map ((pattern.tail.dropLast, part) :: ·)
    else if pattern = part then matchParts patterns parts
    else none
  | _, _ => none

def matchPath (pattern path : List Char) : Option (List (List Char × List Char)) :=
  if pattern = ['/'] ∧ path = ['/'] then some []
  else matchParts (pathParts pattern) (pathParts path)

variable (equalFold : List Char → List Char → Bool)

def matchRoute (plugin : LoadedPlugin) (method path : List Char) :
    Option (HTTPRoute × List (List Char × List Char)) :=
  plugin.httpRoutes.findSome? fun route =>
    if route.methods.any (equalFold · method) then (matchPath route.path path).map (route, ·)
    else none

/-- The answer, or the path that the plugin is given with the route and so with the checks of
`RequiresAuth` and `AdminOnly`. -/
inductive Served where
  | badRequest
  | notFound
  | serviceUnavailable
  | routed (path : List Char) (route : Option (HTTPRoute × List (List Char × List Char)))
  deriving DecidableEq

def serveHTTP (manager : Manager) (pluginID path method : List Char) : Served :=
  if pluginID = [] then .badRequest
  else
    match manager.plugins (normalized pluginID) with
    | none => .notFound
    | some plugin =>
      if plugin.enabled then
        let pluginPath := extractPluginPath path (normalized pluginID)
        .routed pluginPath (matchRoute equalFold plugin method pluginPath)
      else .serviceUnavailable

def requestPath (pluginID rest : List Char) : List Char :=
  "/api/plugins/".toList ++ (pluginID ++ '/' :: rest)

theorem slash_not_mem_normalized (text : List Char) : '/' ∉ normalized text := by
  have plain : ∀ digit < 32, idAlphabet.getD digit 'a' ≠ '/' := by decide
  intro member
  obtain ⟨digit, listed, same⟩ := mem_map.mp member
  exact plain digit (digits32_lt digit listed) same

theorem prefix_part_iff (free : '/' ∉ front) :
    front <+: part ++ '/' :: rest ↔ front <+: part := by
  refine ⟨fun starts => ?_, fun starts => starts.trans (prefix_append ..)⟩
  obtain short | ⟨more, rfl⟩ :=
    prefix_or_prefix_of_prefix starts (prefix_append part ('/' :: rest))
  · exact short
  · cases more with
    | nil => simp
    | cons first more =>
      have slash := (cons_prefix_cons.mp ((prefix_append_right_inj _).mp starts)).1
      exact absurd (mem_append_right _ (slash ▸ mem_cons_self)) free

theorem extractPluginPath_eq_iff (free : '/' ∉ normal) (single : '/' ∉ pluginID)
    (rest : List Char) :
    extractPluginPath (requestPath pluginID rest) normal = '/' :: rest ↔
      pluginID = normal ∨ rest = [] ∧ ¬normal <+: pluginID := by
  unfold extractPluginPath requestPath
  generalize "/api/plugins/".toList = base
  simp only [prefix_append_right_inj, prefix_part_iff free, isPrefixOf_iff_prefix]
  by_cases inside : normal <+: pluginID
  · obtain ⟨more, rfl⟩ := inside
    have left : (base ++ (normal ++ more ++ '/' :: rest)).drop (base ++ normal).length =
        more ++ '/' :: rest := by
      rw [append_assoc, ← append_assoc, drop_left]
    rw [if_pos (prefix_append ..), left, if_neg (by simp)]
    cases more with
    | nil => simp
    | cons first more =>
      have apart : first ≠ '/' := fun same => single (by simp [same])
      simp [apart]
  · have other : pluginID ≠ normal := fun same => inside (same ▸ prefix_rfl)
    simp [inside, other, eq_comm]

/-- The path that is handed on is the rest of the request exactly when the identifier is spelled
as it is normalised, or there is no rest. -/
theorem serveHTTP_hands_rest_iff (manager : Manager) (method pluginID rest : List Char)
    (spelled : pluginID ≠ []) (single : '/' ∉ pluginID)
    (loaded : manager.plugins (normalized pluginID) = some plugin)
    (enabled : plugin.enabled = true) :
    serveHTTP equalFold manager pluginID (requestPath pluginID rest) method =
        .routed ('/' :: rest) (matchRoute equalFold plugin method ('/' :: rest)) ↔
      pluginID = normalized pluginID ∨ rest = [] ∧ ¬normalized pluginID <+: pluginID := by
  rw [← extractPluginPath_eq_iff (slash_not_mem_normalized pluginID) single, serveHTTP,
    if_neg spelled]
  simp only [loaded, enabled, if_true, Served.routed.injEq]
  refine ⟨And.left, fun same => ⟨same, ?_⟩⟩
  rw [same]

def guardedPlugin : LoadedPlugin :=
  ⟨"ae".toList, 1, true, [⟨['/'], ["GET".toList], false, false⟩,
    ⟨"/admin".toList, ["GET".toList], true, true⟩]⟩

def withGuarded : Manager :=
  ⟨fun key => if key = "ae".toList then some guardedPlugin else none, false⟩

theorem serveHTTP_hands_rest_iff_guarded :
    serveHTTP (· == ·) withGuarded "ae".toList (requestPath "ae".toList "admin".toList)
        "GET".toList = .routed "/admin".toList
          (matchRoute (· == ·) guardedPlugin "GET".toList "/admin".toList) :=
  (serveHTTP_hands_rest_iff (· == ·) withGuarded "GET".toList "ae".toList "admin".toList
    (by decide) (by decide) (by decide +kernel) rfl).mpr (.inl (by decide +kernel))

/-- Spelled as a decimal number, the path of the administrators is served by the open route. -/
theorem admin_path_served_openly :
    serveHTTP (· == ·) withGuarded "1".toList (requestPath "1".toList "admin".toList)
        "GET".toList = .routed ['/'] (some (⟨['/'], ["GET".toList], false, false⟩, [])) ∧
      serveHTTP (· == ·) withGuarded "ae".toList (requestPath "ae".toList "admin".toList)
        "GET".toList = .routed "/admin".toList
          (some (⟨"/admin".toList, ["GET".toList], true, true⟩, [])) := by
  decide +kernel

end ShadowPanel.Plugin
