import ShadowPanel.Data.Runs
import ShadowPanel.Repositories.Cached.Coherence
import ShadowPanel.Repositories.Nodes

namespace ShadowPanel.Repositories.Cached

open Data Domain Filters List

/-! The cached `NodeRepository` of `internal/repositories/cached/node.go`, with
what its calls return. -/

inductive NodeQuery where
  | all (order : Option (List Sorting)) (pagination : Option Pagination)
  | find (filter : Option FindNode) (order : Option (List Sorting))
      (pagination : Option Pagination)

inductive NodeCredential where
  | apiKey (value : String)
  | apiToken (value : String)

namespace NodeCredential

def filter : NodeCredential → FindNode
  | .apiKey value => ⟨[], some value, none, false⟩
  | .apiToken value => ⟨[], none, some value, false⟩

def query (credential : NodeCredential) : NodeQuery := .find (some credential.filter) none none

def finds (credential : NodeCredential) (node : Node) : Bool :=
  NodeRepository.isFound credential.filter node

def FindsAt (store : NodeRepository) (id : Nat) (credential : NodeCredential) : Prop :=
  ∃ node ∈ store.rows, node.id = id ∧ credential.finds node = true

/-- The node has the credential, and it is not the empty text. -/
def Names (node : Node) : NodeCredential → Prop
  | .apiKey value => node.gdaemonAPIKey = value ∧ value ≠ ""
  | .apiToken value => node.gdaemonAPIToken = some value ∧ value ≠ ""

theorem finds_apiKey_iff : finds (.apiKey value) node = true ↔
    node.deletedAt = none ∧ node.gdaemonAPIKey = value := by
  simp [finds, filter, NodeRepository.isFound]

theorem finds_apiToken_iff : finds (.apiToken value) node = true ↔
    node.deletedAt = none ∧ node.gdaemonAPIToken = some value := by
  simp [finds, filter, NodeRepository.isFound]

def value : NodeCredential → String
  | .apiKey value | .apiToken value => value

theorem deletedAt_of_finds {credential : NodeCredential} (found : credential.finds node = true) :
    node.deletedAt = none := by
  cases credential with
  | apiKey value => exact (finds_apiKey_iff.mp found).1
  | apiToken value => exact (finds_apiToken_iff.mp found).1

theorem finds_saved {credential : NodeCredential} :
    credential.finds (NodeRepository.saved now fresh node) = credential.finds node := by
  cases credential <;> rfl

theorem names_of_finds {credential : NodeCredential} (found : credential.finds node = true)
    (given : credential.value ≠ "") : credential.Names node := by
  cases credential with
  | apiKey value => exact ⟨(finds_apiKey_iff.mp found).2, given⟩
  | apiToken value => exact ⟨(finds_apiToken_iff.mp found).2, given⟩

end NodeCredential

namespace NodeQuery

def credential : NodeQuery → Option NodeCredential
  | .all _ _ => none
  | .find filter _ _ =>
    match filter.bind FindNode.gDaemonAPIKey, filter.bind FindNode.gDaemonAPIToken with
    | some value, _ => some (.apiKey value)
    | none, some value => some (.apiToken value)
    | none, none => none

@[simp] theorem credential_query (credential : NodeCredential) :
    credential.query.credential = some credential := by
  cases credential <;> rfl

def canonical (query : NodeQuery) : NodeQuery :=
  match query.credential with
  | some credential => credential.query
  | none => query

def keyParts (query : NodeQuery) : String × List Param :=
  match query.credential, query with
  | some (.apiKey value), _ => ("apikey", [.text value])
  | some (.apiToken value), _ => ("apitoken", [.text value])
  | none, .all order pagination => ("findall", [.order order, .pagination pagination])
  | none, .find filter order pagination =>
    ("find", [.findNode filter, .order order, .pagination pagination])

theorem canonical_of_keyParts {left right : NodeQuery} (same : left.keyParts = right.keyParts) :
    left.canonical = right.canonical := by
  unfold keyParts at same
  unfold canonical
  split at same <;> split at same <;> simp_all

def rows (sorted : Sorted Node) (store : NodeRepository) : NodeQuery → List Node
  | .all order pagination => store.findAll sorted (order.getD []) pagination
  | .find filter order pagination => store.find sorted filter (order.getD []) pagination

variable (digests : Digests)

def key (query : NodeQuery) : String := NodeRepository.key digests query.keyParts.1 query.keyParts.2

theorem key_eq (query : NodeQuery) : query.key digests =
    "node" ++ ":" ++ query.keyParts.1 ++ ":" ++ digests.hashParams query.keyParts.2 := by
  unfold key keyParts
  split <;> rfl

theorem find_eq_readThrough (filter : Option FindNode) (order : Option (List Sorting))
    (pagination : Option Pagination) (loaded : Option Json) :
    NodeRepository.find digests filter order pagination loaded =
      readThrough ((NodeQuery.find filter order pagination).key digests) loaded := by
  cases apiKey : filter.bind FindNode.gDaemonAPIKey with
  | some value => simp only [NodeRepository.find, key, keyParts, credential, apiKey]
  | none =>
    cases apiToken : filter.bind FindNode.gDaemonAPIToken with
    | some value | none =>
      simp only [NodeRepository.find, key, keyParts, credential, apiKey, apiToken]

theorem findAll_eq_readThrough (order : Option (List Sorting)) (pagination : Option Pagination)
    (loaded : Option Json) :
    NodeRepository.findAll digests order pagination loaded =
      readThrough ((NodeQuery.all order pagination).key digests) loaded :=
  rfl

end NodeQuery

variable (digests : Digests) (sorted : Sorted Node) (codec : JsonCodec (List Node))

def nodeLookup : Lookup NodeRepository NodeQuery Node where
  rows := NodeQuery.rows sorted
  key := NodeQuery.key digests
  canonical := NodeQuery.canonical
  codec := codec

theorem nodeLookup_separates (apart : Function.Injective digests.hashParams) :
    (nodeLookup digests sorted codec).Separates .redis := by
  intro left right same
  have sameKey : left.key digests = right.key digests := eq_of_slot_redis same
  rw [NodeQuery.key_eq, NodeQuery.key_eq] at sameKey
  have free (query : NodeQuery) : ':' ∉ query.keyParts.1.toList := by
    unfold NodeQuery.keyParts
    split <;> simp
  obtain ⟨sameOperation, sameHash⟩ := key_injective (free left) (free right) sameKey
  exact NodeQuery.canonical_of_keyParts (Prod.ext sameOperation (apart sameHash))

inductive NodeCall where
  | wait (seconds : Nat)
  | read (query : NodeQuery) (pause : Nat)
  | save (node : Node) (fresh : Nat)
  | delete (id : Nat) (findFails : Bool)
  | updateGDaemonAPIToken (id : Nat) (hashedToken : String) (updatedAt : Int) (findFails : Bool)

namespace NodeCall

def credentials (node : Node) : NodeRepository.Credentials :=
  ⟨node.gdaemonAPIKey, node.gdaemonAPIToken⟩

def previous (store : NodeRepository) (id : Nat) (findFails : Bool) :
    Option (List NodeRepository.Credentials) :=
  if findFails then none
  else some ((store.find sorted (some ⟨[id], none, none, false⟩) [] none).map credentials)

def target : NodeCall → Option Nat
  | .save node fresh => some (if node.id = 0 then fresh else node.id)
  | .delete id _ => some id
  | .updateGDaemonAPIToken id _ _ _ => some id
  | .wait _ | .read _ _ => none

def inner (now : Int) (store : NodeRepository) : NodeCall → NodeRepository
  | .save node fresh => store.save now fresh node
  | .delete id _ => store.delete id
  | .updateGDaemonAPIToken id hashedToken updatedAt _ =>
    store.updateGDaemonAPIToken id hashedToken updatedAt
  | .wait _ | .read _ _ => store

def removals (store : NodeRepository) : NodeCall → List Operation
  | .save node _ => NodeRepository.save digests (credentials node) true
  | .delete id findFails =>
    NodeRepository.delete digests (previous sorted store id findFails) true
  | .updateGDaemonAPIToken id hashedToken _ findFails =>
    NodeRepository.updateGDaemonAPIToken digests (previous sorted store id findFails)
      hashedToken true
  | .wait _ | .read _ _ => []

end NodeCall

def nodeStep (ttl : Int) (state : Caching .redis NodeRepository) :
    NodeCall → Caching .redis NodeRepository
  | .wait seconds => { state with now := state.now + seconds }
  | .read query pause => ((nodeLookup digests sorted codec).read ttl state query pause).1
  | call =>
    { state with
      cache := (call.removals digests sorted state.store).foldl
        (Wrapper.apply ttl state.now) state.cache
      store := call.inner state.now state.store }

section

variable (state : Caching .redis NodeRepository)

def NodeCredential.Uncached (credential : NodeCredential) : Prop :=
  state.cache.get state.now (credential.query.key digests) = none

/-- Every credential that finds the written row, as it was or as it becomes, is
taken out of the cache or is not there. -/
def NodeCall.Drops (call : NodeCall) : Prop :=
  ∀ (credential : NodeCredential) (node : Node), call.target = some node.id →
    node ∈ state.store.rows ∨ node ∈ (call.inner state.now state.store).rows →
    credential.finds node = true →
    credential.Uncached digests state ∨
      ∃ operation ∈ call.removals digests sorted state.store,
        operation.Removes .redis (credential.query.key digests)

/-- What each call may meet.  A lookup asks for what its cached entry stands for.  A
credential that finds the row that is to be written is not in the cache, or the call
takes care of it: a `Save` of the credentials in the new row, a `Delete` of those in
the old row, an update of the token of the old and the new token; an empty text none
of them looks at. -/
def NodeCall.Safe : NodeCall → Prop
  | .wait _ => True
  | .read query _ => (nodeLookup digests sorted codec).Plain state.store query
  | .save node fresh => ∀ credential : NodeCredential, credential.finds node = true ∨
      credential.FindsAt state.store (if node.id = 0 then fresh else node.id) →
    credential.Names node ∨ credential.Uncached digests state
  | .delete id findFails => ∀ credential : NodeCredential, credential.FindsAt state.store id →
    findFails = false ∧ credential.value ≠ "" ∨ credential.Uncached digests state
  | .updateGDaemonAPIToken id hashedToken _ findFails =>
    ∀ credential : NodeCredential, credential.FindsAt state.store id →
      (∃ apiToken, credential = .apiToken apiToken ∧
        (apiToken = hashedToken ∨ findFails = false ∧ apiToken ≠ "")) ∨
      credential.Uncached digests state

end

namespace NodeCall

variable {digests sorted codec} {store : NodeRepository} {now : Int}

theorem all_isRemoval_removals (call : NodeCall) :
    (call.removals digests sorted store).all Operation.isRemoval = true := by
  cases call with
  | wait | read => rfl
  | save node fresh =>
    simp [removals, NodeRepository.save, NodeRepository.invalidateCredentials, Operation.isRemoval]
  | delete id findFails =>
    simp only [removals, NodeRepository.delete, if_true]
    split <;> simp [NodeRepository.invalidateCredentials, Operation.isRemoval]
  | updateGDaemonAPIToken id hashedToken updatedAt findFails =>
    simp only [removals, NodeRepository.updateGDaemonAPIToken, if_true]
    split <;> split <;> simp [Operation.isRemoval]

theorem differIn_inner (call : NodeCall) :
    DifferIn (fun node => call.target = some node.id) store.rows (call.inner now store).rows := by
  cases call with
  | wait | read => exact .refl _ _
  | save node fresh =>
    apply (differIn_place Node.id (NodeRepository.saved now fresh node) store.rows).mono
    intro row same
    exact congrArg some same.symm
  | delete id findFails =>
    apply (differIn_filter (fun node : Node => node.id != id) store.rows).mono
    intro row dropped
    have same : row.id = id := by simpa using dropped
    exact congrArg some same.symm
  | updateGDaemonAPIToken id hashedToken updatedAt findFails =>
    apply differIn_map
    intro node
    by_cases same : node.id = id
    · exact .inr (by simp [target, same])
    · exact .inl (if_neg same)

theorem removes_of_credential_none {query : NodeQuery} (plain : query.credential = none) :
    (Operation.invalidatePattern "node:find*").Removes .redis (query.key digests) := by
  refine (accepts_literal (show Glob.Plain "node:find".toList by decide) _).mpr ?_
  rw [NodeQuery.key_eq]
  cases query with
  | all order pagination | find filter order pagination => simp [NodeQuery.keyParts, plain]

theorem removes_names {credential : NodeCredential} (named : credential.Names node) :
    ∃ operation ∈ NodeRepository.invalidateCredentials digests (credentials node),
      operation.Removes .redis (credential.query.key digests) := by
  cases credential with
  | apiKey value =>
    obtain ⟨rfl, given⟩ := named
    refine ⟨.invalidate (NodeRepository.key digests "apikey" [.text node.gdaemonAPIKey]), ?_, rfl⟩
    simp [NodeRepository.invalidateCredentials, invalidateText, credentials, given]
  | apiToken value =>
    obtain ⟨same, given⟩ := named
    refine ⟨.invalidate (NodeRepository.key digests "apitoken" [.text value]), ?_, rfl⟩
    simp [NodeRepository.invalidateCredentials, invalidateText, credentials, same, given]

theorem previous_of_finds (ordered : store.rows.Pairwise fun earlier later => earlier.id < later.id)
    (member : node ∈ store.rows) {credential : NodeCredential}
    (found : credential.finds node = true) :
    previous sorted store node.id false = some [credentials node] := by
  have only : store.rows.filter (NodeRepository.isFound ⟨[node.id], none, none, false⟩) = [node] :=
    filter_eq_singleton ordered member
      (by simp [NodeRepository.isFound, NodeCredential.deletedAt_of_finds found])
      (by simp +contextual [NodeRepository.isFound])
  simp [previous, Repositories.NodeRepository.find, sortRows, applyPagination, only]

theorem drops_update
    (ordered : state.store.rows.Pairwise fun earlier later => earlier.id < later.id)
    (safe : Safe digests sorted codec state
      (.updateGDaemonAPIToken node.id hashedToken updatedAt findFails))
    (member : node ∈ state.store.rows) {credential : NodeCredential}
    (found : credential.finds node = true) :
    credential.Uncached digests state ∨ ∃ operation ∈ removals digests sorted state.store
        (.updateGDaemonAPIToken node.id hashedToken updatedAt findFails),
      operation.Removes .redis (credential.query.key digests) := by
  refine (safe credential ⟨node, member, rfl, found⟩).symm.imp_right ?_
  rintro ⟨apiToken, rfl, known⟩
  refine ⟨.invalidate (NodeRepository.key digests "apitoken" [.text apiToken]), ?_, rfl⟩
  by_cases same : apiToken = hashedToken
  · simp [removals, NodeRepository.updateGDaemonAPIToken, same]
  · obtain ⟨rfl, given⟩ := known.resolve_left same
    have own := (NodeCredential.finds_apiToken_iff.mp found).2
    simp [removals, previous_of_finds ordered member found, credentials, own, given, same,
      NodeRepository.updateGDaemonAPIToken]

theorem Safe.drops {call : NodeCall}
    (ordered : state.store.rows.Pairwise fun earlier later => earlier.id < later.id)
    (safe : call.Safe digests sorted codec state) : call.Drops digests sorted state := by
  intro credential written target stored found
  cases call with
  | wait | read => cases target
  | save node fresh =>
    have finds : credential.finds node = true ∨
        credential.FindsAt state.store (if node.id = 0 then fresh else node.id) := by
      rcases stored with before | after
      · exact .inr ⟨written, before, (Option.some.inj target).symm, found⟩
      · rcases eq_or_mem_of_mem_place after with rfl | before
        · exact .inl (NodeCredential.finds_saved.symm.trans found)
        · exact .inr ⟨written, before, (Option.some.inj target).symm, found⟩
    refine (safe credential finds).symm.imp_right fun named => ?_
    obtain ⟨operation, member, removes⟩ := removes_names named
    exact ⟨operation, mem_append_left _ member, removes⟩
  | delete id findFails =>
    have before : written ∈ state.store.rows := by
      rcases stored with before | after
      · exact before
      · exact (mem_filter.mp after).1
    cases target
    refine (safe credential ⟨written, before, rfl, found⟩).symm.imp_right fun looked => ?_
    obtain ⟨rfl, given⟩ := looked
    obtain ⟨operation, member, removes⟩ := removes_names (NodeCredential.names_of_finds found given)
    refine ⟨operation, ?_, removes⟩
    simp only [removals, previous_of_finds ordered before found, NodeRepository.delete, if_true]
    exact mem_append_left _ member
  | updateGDaemonAPIToken id hashedToken updatedAt findFails =>
    have own : written.id = id := (Option.some.inj target).symm
    rcases stored with before | after
    · subst own
      exact drops_update ordered safe before found
    · obtain ⟨row, member, updated⟩ := mem_map.mp after
      by_cases same : row.id = id
      · rw [if_pos same] at updated
        subst same updated
        cases credential with
        | apiKey value => exact drops_update ordered safe member found
        | apiToken value =>
          obtain rfl : hashedToken = value :=
            Option.some.inj (NodeCredential.finds_apiToken_iff.mp found).2
          refine .inr ⟨.invalidate (NodeRepository.key digests "apitoken" [.text hashedToken]), ?_,
            rfl⟩
          simp [removals, NodeRepository.updateGDaemonAPIToken]
      · rw [if_neg same] at updated
        exact absurd (updated ▸ own) same

theorem ordered_inner (ordered : store.rows.Pairwise fun earlier later => earlier.id < later.id)
    (call : NodeCall) :
    (call.inner now store).rows.Pairwise fun earlier later => earlier.id < later.id := by
  cases call with
  | wait | read => exact ordered
  | save node fresh => exact pairwise_place ordered
  | delete id findFails => exact ordered.filter _
  | updateGDaemonAPIToken id hashedToken updatedAt findFails =>
    exact Data.pairwise_map (fun node => by split <;> rfl) ordered

theorem Drops.coherent {call : NodeCall} (drops : call.Drops digests sorted state)
    (clears : .invalidatePattern "node:find*" ∈ call.removals digests sorted state.store)
    (coherent : (nodeLookup digests sorted codec).Coherent state) :
    (nodeLookup digests sorted codec).Coherent { state with
        cache := (call.removals digests sorted state.store).foldl
          (Wrapper.apply ttl state.now) state.cache
        store := call.inner state.now state.store } := by
  apply coherent.write call.all_isRemoval_removals
  intro query
  cases found : query.credential with
  | none => exact .inr (.inr ⟨_, clears, removes_of_credential_none found⟩)
  | some credential =>
    have canonical : query.canonical = credential.query := by
      simp only [NodeQuery.canonical, found]
    have keyed : query.key digests = credential.query.key digests := by
      cases credential with
      | apiKey value | apiToken value => simp [NodeQuery.key, NodeQuery.keyParts, found]
    simp only [nodeLookup, canonical, keyed]
    cases call.differIn_inner.same_or_selected credential.finds with
    | inl same => exact .inl same
    | inr written =>
      obtain ⟨node, target, stored, finds⟩ := written
      exact .inr (drops credential node target stored finds)

end NodeCall

structure NodesServed (state : Caching .redis NodeRepository) : Prop where
  ordered : state.store.rows.Pairwise fun earlier later => earlier.id < later.id
  coherent : (nodeLookup digests sorted codec).Coherent state

section

variable {digests sorted codec} {ttl : Int} {state : Caching .redis NodeRepository}

theorem NodesServed.step (served : NodesServed digests sorted codec state)
    (apart : Function.Injective digests.hashParams) (call : NodeCall)
    (safe : call.Safe digests sorted codec state) :
    NodesServed digests sorted codec (nodeStep digests sorted codec ttl state call) := by
  have written := safe.drops served.ordered
  refine ⟨?_, ?_⟩
  · cases call with
    | wait | read => exact served.ordered
    | save | delete | updateGDaemonAPIToken => exact NodeCall.ordered_inner served.ordered _
  · cases call with
    | wait seconds => exact served.coherent.later seconds
    | read query pause =>
      exact served.coherent.read (nodeLookup_separates digests sorted codec apart) safe
    | save node fresh =>
      exact written.coherent (by simp [NodeCall.removals, NodeRepository.save]) served.coherent
    | delete id findFails =>
      exact written.coherent (by simp [NodeCall.removals, NodeRepository.delete]) served.coherent
    | updateGDaemonAPIToken id hashedToken updatedAt findFails =>
      exact written.coherent (by simp [NodeCall.removals, NodeRepository.updateGDaemonAPIToken])
        served.coherent

end

def nodeCodec : JsonCodec Node :=
  .through
    (.pair .natural <| .pair .boolean <| .pair .text <|
      .pair (.enumeration [.linux, .windows, .macOS, .other] (by intro os; cases os <;> simp)) <|
      .pair .text <| .pair (.optional .text) <| .pair (.list .text) <| .pair .text <|
      .pair (.optional .text) <| .pair .text <| .pair .integer <| .pair .text <|
      .pair (.optional .text) <| .pair .text <| .pair .natural <|
      .pair (.enumeration [.auto, .copy, .download, .script, .steam, .node]
        (by intro method; cases method <;> simp)) <|
      .pair (.optional .integer) <| .pair (.optional .integer) (.optional .integer))
    (fun node => (node.id, node.enabled, node.name, node.os, node.location, node.provider,
      node.ips, node.workPath, node.steamcmdPath, node.gdaemonHost, node.gdaemonPort,
      node.gdaemonAPIKey, node.gdaemonAPIToken, node.gdaemonServerCert,
      node.clientCertificateID, node.preferInstallMethod, node.createdAt, node.updatedAt,
      node.deletedAt))
    (fun (id, enabled, name, os, location, provider, ips, workPath, steamcmdPath, host, port,
        apiKey, apiToken, serverCert, certificateID, method, createdAt, updatedAt, deletedAt) =>
      ⟨id, enabled, name, os, location, provider, ips, workPath, steamcmdPath, host, port,
        apiKey, apiToken, serverCert, certificateID, method, createdAt, updatedAt, deletedAt⟩)
    (fun _ => rfl)

def sampleNode (apiKey : String) : Node where
  id := 1
  enabled := true
  name := "node"
  os := .linux
  location := "here"
  provider := none
  ips := ["192.0.2.7"]
  workPath := "/srv/gameap"
  steamcmdPath := none
  gdaemonHost := "192.0.2.7"
  gdaemonPort := 31717
  gdaemonAPIKey := apiKey
  gdaemonAPIToken := none
  gdaemonServerCert := ""
  clientCertificateID := 1
  preferInstallMethod := .auto
  createdAt := some 0
  updatedAt := some 0
  deletedAt := none

def keptOrder : Sorted Node := fun _ => .kept

def onlyNode (apiKey : String) : Caching .redis NodeRepository where
  now := 0
  cache := Cache.empty
  store := ⟨[sampleNode apiKey]⟩

def keyQuery (ids : List Nat) (apiKey : String) : NodeQuery :=
  .find (some ⟨ids, some apiKey, none, false⟩) none none

def rekeyed : Caching .redis NodeRepository :=
  run (nodeStep tellingDigests keptOrder nodeCodec.list 300) (onlyNode "old")
    [.read (keyQuery [] "old") 0, .save (sampleNode "new") 0]

theorem replaced_key_still_found :
    ((nodeLookup tellingDigests keptOrder nodeCodec.list).read 300 rekeyed
        (keyQuery [] "old") 0).2 = some [sampleNode "old"] ∧
      rekeyed.store.rows = [sampleNode "new"] ∧
      (keyQuery [] "old").rows keptOrder rekeyed.store = [] ∧
      ((nodeLookup tellingDigests keptOrder nodeCodec.list).read 300
          (nodeStep tellingDigests keptOrder nodeCodec.list 300 (onlyNode "old")
            (.read (keyQuery [] "old") 0)) (keyQuery [2] "old") 0).2 = some [sampleNode "old"] ∧
      (keyQuery [2] "old").rows keptOrder (onlyNode "old").store = [] := by
  decide +kernel

section

variable {digests sorted codec} {ttl : Int} {state : Caching .redis NodeRepository}

/-- After safe calls a lookup returns what the repository underneath has, so
that a node is found only by the key and the token that are stored for it. -/
theorem find_returns_stored_rows (apart : Function.Injective digests.hashParams)
    (ordered : state.store.rows.Pairwise fun earlier later => earlier.id < later.id)
    (start : ∀ query : NodeQuery, state.cache.get state.now (query.key digests) = none)
    {calls : List NodeCall} {reached : Caching .redis NodeRepository}
    (reaches : run (nodeStep digests sorted codec ttl) state calls = reached)
    (safe : Along (nodeStep digests sorted codec ttl) (NodeCall.Safe digests sorted codec) state
      calls) (filter : FindNode) (order : Option (List Sorting)) (pagination : Option Pagination)
    (pause : Nat)
    (asked : NodeCall.Safe digests sorted codec reached
      (.read (.find (some filter) order pagination) pause)) :
    (∀ nodes, ((nodeLookup digests sorted codec).read ttl reached
          (.find (some filter) order pagination) pause).2 = some nodes →
        nodes = reached.store.find sorted (some filter) (order.getD []) pagination ∧
        ∀ node ∈ nodes, node ∈ reached.store.rows ∧
          (∀ apiKey, filter.gDaemonAPIKey = some apiKey → node.gdaemonAPIKey = apiKey) ∧
          ∀ apiToken, filter.gDaemonAPIToken = some apiToken →
            node.gdaemonAPIToken = some apiToken) ∧
      ((nodeLookup digests sorted codec).Lasts ttl reached
          (.find (some filter) order pagination) pause →
        ((nodeLookup digests sorted codec).read ttl reached
            (.find (some filter) order pagination) pause).2 =
          some (reached.store.find sorted (some filter) (order.getD []) pagination)) := by
  have separates := nodeLookup_separates digests sorted codec apart
  have served : NodesServed digests sorted codec reached := by
    rw [← reaches]
    exact safe.invariant (fun _ call admitted served => served.step apart call admitted)
      ⟨ordered, Lookup.coherent_of_empty start⟩
  constructor
  · intro nodes returned
    have same : nodes = reached.store.find sorted (some filter) (order.getD []) pagination :=
      served.coherent.eq_of_read separates asked returned
    refine ⟨same, ?_⟩
    intro node member
    rw [same] at member
    obtain ⟨stored, found⟩ := mem_filter.mp (mem_sortRows.mp (mem_of_mem_applyPagination member))
    exact ⟨stored, Repositories.NodeRepository.credentials_of_isFound found⟩
  · intro lasts
    exact served.coherent.read_eq separates asked lasts

end

theorem find_returns_stored_rows_deleted :
    ((nodeLookup tellingDigests keptOrder nodeCodec.list).read 300
        (run (nodeStep tellingDigests keptOrder nodeCodec.list 300) (onlyNode "key")
          [.read (keyQuery [] "key") 0, .delete 1 false]) (keyQuery [] "key") 0).2 = some [] := by
  refine (find_returns_stored_rows tellingDigests_apart (pairwise_singleton _ _) (fun _ => rfl) rfl
    ?safe _ _ _ 0 ?plain).2 ?lasts
  case safe =>
    refine ⟨rfl, ?_, trivial⟩
    rintro (value | value) ⟨node, member, -, found⟩ <;>
      obtain rfl : node = sampleNode "key" := mem_singleton.mp member
    · obtain rfl : "key" = value := (NodeCredential.finds_apiKey_iff.mp found).2
      exact .inl ⟨rfl, by simp [NodeCredential.value]⟩
    · cases (NodeCredential.finds_apiToken_iff.mp found).2
  case plain => rfl
  case lasts => exact Lookup.lasts_at_once _ _ _ _

end ShadowPanel.Repositories.Cached
