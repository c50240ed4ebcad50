import Guardrail.Proofs.Tenant.Isolation
import Mathlib.Data.List.Induction
import Mathlib.Data.List.Nodup

/-! # The store as one table

A history of calls is told by those among them that succeed. From these alone one can say which
policies a tenant has, in which order, at which version and with which content. The ids under which
policies are created are generated, so they are different from each other; nothing is assumed about
the ids that callers write. -/

namespace Guardrail.Store

/-! ## The calls of a history -/

/-- The id under which a policy is created. -/
def Call.generated? : Call → Option String
  | create id _ _ => some id
  | _ => none

/-- The id of the policy that a call is about. -/
def Call.id : Call → String
  | create id _ _ => id
  | update _ draft => draft.id
  | delete _ id => id

/-- The id of the policy that a call adds for the tenant. -/
def Call.adds? (tenant : String) (c : Call) : Option String :=
  if c.tenant == tenant then c.generated? else none

def Call.updates (tenant id : String) : Call → Bool
  | update _ draft => draft.tenant == tenant && draft.id == id
  | _ => false

def Call.deletes (tenant id : String) : Call → Bool
  | delete owner target => owner == tenant && target == id
  | _ => false

/-- What a call writes, and when. -/
def Call.written? : Call → Option (Timestamp × TenantPolicy)
  | create _ now draft => some (now, draft)
  | update now draft => some (now, draft)
  | delete _ _ => none

/-- What a call writes as the policy of the tenant with the id. -/
def Call.writes? (tenant id : String) (c : Call) : Option (Timestamp × TenantPolicy) :=
  if c.tenant == tenant && c.id == id then c.written? else none

def succeeds (s : Store) : Call → Bool
  | .create _ _ _ => true
  | .update now draft => (s.update now draft).isOk
  | .delete tenant id => (s.delete tenant id).isOk

/-- Those of the calls that succeed when all are made one after another. -/
def successes (s : Store) : List Call → List Call
  | [] => []
  | c :: rest =>
    if s.succeeds c then c :: (s.perform c).successes rest else (s.perform c).successes rest

variable {s s' : Store} {log calls : List Call} {tenant id : String} {now : Timestamp}
  {draft p : TenantPolicy}

theorem run_concat (s : Store) (calls : List Call) (c : Call) :
    s.run (calls ++ [c]) = (s.run calls).perform c :=
  List.foldl_concat ..

theorem successes_concat (s : Store) (calls : List Call) (c : Call) :
    s.successes (calls ++ [c]) =
      s.successes calls ++ if (s.run calls).succeeds c then [c] else [] := by
  induction calls generalizing s with
  | nil => rfl
  | cons d rest ih =>
    have hrun : s.run (d :: rest) = (s.perform d).run rest := rfl
    rw [List.cons_append, successes, successes, ih, hrun]
    split <;> rfl

/-- A policy is always created. -/
theorem generated_successes (s : Store) (calls : List Call) :
    (s.successes calls).filterMap Call.generated? = calls.filterMap Call.generated? := by
  induction calls generalizing s with
  | nil => rfl
  | cons c rest ih =>
    rw [successes]
    split
    · rw [List.filterMap_cons, List.filterMap_cons, ih]
    · rename_i hc
      have hgenerated : c.generated? = none := by
        cases c with
        | create => exact absurd rfl hc
        | update => rfl
        | delete => rfl
      rw [List.filterMap_cons, hgenerated, ih]

/-! ## Calls that fail -/

theorem mem_list : p ∈ s.list tenant ↔ p ∈ s.policies ∧ p.tenant = tenant := by
  rw [list, List.mem_filter, beq_iff_eq]

theorem mem_of_find?_id {own : List TenantPolicy} (h : own.find? (·.id == id) = some p) :
    p ∈ own ∧ p.id = id :=
  ⟨List.mem_of_find?_eq_some h, by simpa using List.find?_some h⟩

theorem get_isOk_iff : (s.get tenant id).isOk = true ↔ ∃ p ∈ s.list tenant, p.id = id := by
  rw [get_eq]
  cases hfind : (s.list tenant).find? (·.id == id) with
  | none =>
    have hnone : ∀ p ∈ s.list tenant, p.id ≠ id := by simpa using hfind
    exact iff_of_false Bool.false_ne_true fun ⟨p, hp, hid⟩ => hnone p hp hid
  | some p => exact iff_of_true rfl ⟨p, mem_of_find?_id hfind⟩

/-- A call fails if it is about a policy that its tenant does not have. -/
theorem succeeds_iff (s : Store) (c : Call) :
    s.succeeds c = true ↔
      c.generated?.isSome = true ∨ ∃ p ∈ s.list c.tenant, p.id = c.id := by
  cases c with
  | create => exact iff_of_true rfl (.inl rfl)
  | update now draft =>
    have hupdate : s.succeeds (.update now draft) = (s.get draft.tenant draft.id).isOk := by
      rw [succeeds, update]
      cases s.get draft.tenant draft.id <;> rfl
    rw [hupdate, get_isOk_iff]
    simp [Call.generated?, Call.tenant, Call.id]
  | delete tenant id =>
    have hdelete : s.succeeds (.delete tenant id) = (s.get tenant id).isOk := by
      rw [succeeds, delete]
      cases s.get tenant id <;> rfl
    rw [hdelete, get_isOk_iff]
    simp [Call.generated?, Call.tenant, Call.id]

theorem exists_of_succeeds {c : Call} (h : s.succeeds c = true) (hold : c.generated? = none) :
    ∃ existing, (s.list c.tenant).find? (·.id == c.id) = some existing := by
  obtain hnew | ⟨p, hp, hid⟩ := (s.succeeds_iff c).mp h
  · rw [hold] at hnew
    cases hnew
  · exact Option.isSome_iff_exists.mp (List.find?_isSome.mpr ⟨p, hp, beq_iff_eq.mpr hid⟩)

theorem perform_of_not_succeeds {c : Call} (h : s.succeeds c = false) : s.perform c = s := by
  cases c with
  | create => cases h
  | update now draft =>
    rw [succeeds] at h
    rw [perform]
    cases hupdate : s.update now draft with
    | ok result =>
      rw [hupdate] at h
      cases h
    | error => rfl
  | delete tenant id =>
    rw [succeeds] at h
    rw [perform]
    cases hdelete : s.delete tenant id with
    | ok result =>
      rw [hdelete] at h
      cases h
    | error => rfl

/-- Calls that fail might as well not have been made. -/
theorem run_successes (s : Store) (calls : List Call) :
    s.run (s.successes calls) = s.run calls := by
  induction calls generalizing s with
  | nil => rfl
  | cons c rest ih =>
    rw [successes]
    cases hc : s.succeeds c with
    | true => exact ih (s.perform c)
    | false =>
      rw [if_neg Bool.false_ne_true, run, run, List.foldl_cons, perform_of_not_succeeds hc]
      exact ih s

/-! ## What the successful calls say -/

/-- The ids that were added for the tenant and not deleted, in the order of their addition. -/
def remaining (log : List Call) (tenant : String) : List String :=
  (log.filterMap (Call.adds? tenant)).filter fun id => !log.any (Call.deletes tenant id)

/-- The policy is as these calls have left it: as it was last written, but for what the store sets
by itself. -/
structure AsWritten (since : List Call) (p : TenantPolicy) : Prop where
  version : p.version = 1 + since.countP (Call.updates p.tenant p.id)
  content : ∃ now draft,
    (since.filterMap (Call.writes? p.tenant p.id)).getLast? = some (now, draft) ∧
      p = { draft with id := p.id, modifiedAt := some now, version := p.version }

/-- The policy is as the calls since its creation for the tenant have left it. -/
def Told (log : List Call) (p : TenantPolicy) : Prop :=
  ∃ before now draft after, log = before ++ .create p.id now draft :: after ∧
    draft.tenant = p.tenant ∧ AsWritten (.create p.id now draft :: after) p

/-- The table that a history leaves, told by the calls of the history that succeeded. -/
structure Tabled (log : List Call) (s : Store) : Prop where
  /-- No id is used twice, be it by one tenant or by two. -/
  ids : (s.policies.map (·.id)).Nodup
  order : ∀ tenant, (s.list tenant).map (·.id) = remaining log tenant
  told : ∀ tenant, ∀ p ∈ s.list tenant, p.tenant = tenant ∧ Told log p

/-- Besides, no call succeeded about a policy that was never created. -/
structure Traced (log : List Call) (s : Store) : Prop extends Tabled log s where
  known : ∀ c ∈ log, c.id ∈ log.filterMap Call.generated?

/-! ### One more call -/

theorem remaining_create (hid : ∀ c ∈ log, c.id ≠ id) (tenant : String) :
    remaining (log ++ [.create id now draft]) tenant =
      remaining log tenant ++ if draft.tenant == tenant then [id] else [] := by
  have hany (other : String) : (log ++ [Call.create id now draft]).any (Call.deletes tenant other) =
      log.any (Call.deletes tenant other) := by
    rw [List.any_append]
    exact Bool.or_false _
  have hnone : log.any (Call.deletes tenant id) = false := by
    rw [List.any_eq_false]
    rintro (_ | _ | ⟨owner, target⟩) hc
    · exact Bool.false_ne_true
    · exact Bool.false_ne_true
    · have hne : target ≠ id := hid _ hc
      simp [Call.deletes, hne]
  have hadds : (Call.create id now draft).adds? tenant =
    if draft.tenant == tenant then some id else none := rfl
  simp only [remaining, hany, List.filterMap_append, List.filter_append, List.filterMap_cons, hadds]
  cases draft.tenant == tenant with
  | true => simp [hnone]
  | false => simp

theorem remaining_update (log : List Call) (now : Timestamp) (draft : TenantPolicy)
    (tenant : String) : remaining (log ++ [.update now draft]) tenant = remaining log tenant := by
  have hadds : (Call.update now draft).adds? tenant = none := ite_self _
  have hdeletes (other : String) : (Call.update now draft).deletes tenant other = false := rfl
  simp [remaining, hadds, hdeletes]

theorem remaining_delete (log : List Call) (owner id tenant : String) :
    remaining (log ++ [.delete owner id]) tenant =
      if owner == tenant then (remaining log tenant).filter (· ≠ id)
      else remaining log tenant := by
  have hadds : (Call.delete owner id).adds? tenant = none := ite_self _
  have hdeletes (other : String) : (Call.delete owner id).deletes tenant other =
    (owner == tenant && id == other) := rfl
  simp only [remaining, List.filterMap_append, List.filterMap_cons, hadds, List.filterMap_nil,
    List.append_nil, List.any_append, List.any_cons, hdeletes, List.any_nil, Bool.or_false]
  cases owner == tenant with
  | true =>
    rw [if_pos rfl, List.filter_filter]
    refine List.filter_congr fun other _ => ?_
    rw [Bool.true_and, Bool.not_or, Bool.and_comm, beq_eq_decide, decide_not]
    simp only [eq_comm]
  | false => simp

theorem writes?_of_ne {c : Call} (h : ¬ (c.tenant = tenant ∧ c.id = id)) :
    c.writes? tenant id = none := by
  rw [Call.writes?, if_neg (by simpa using h)]

theorem updates_of_ne {c : Call} (h : ¬ (c.tenant = tenant ∧ c.id = id)) :
    c.updates tenant id = false := by
  cases c with
  | update now draft => simpa [Call.updates, Call.tenant, Call.id] using h
  | create => rfl
  | delete => rfl

theorem getLast?_writes? {c : Call} (h : c.writes? tenant id = some (now, draft)) :
    ((log ++ [c]).filterMap (Call.writes? tenant id)).getLast? = some (now, draft) := by
  rw [List.filterMap_append, List.filterMap_cons, h]
  exact List.getLast?_concat

/-- Calls about another policy do not count. -/
theorem AsWritten.concat {c : Call} (h : AsWritten log p)
    (hne : ¬ (c.tenant = p.tenant ∧ c.id = p.id)) : AsWritten (log ++ [c]) p where
  version := by
    rw [List.countP_append, List.countP_singleton, updates_of_ne hne]
    exact h.version
  content := by
    rw [List.filterMap_append, List.filterMap_cons, writes?_of_ne hne, List.filterMap_nil,
      List.append_nil]
    exact h.content

theorem asWritten_created (id : String) (now : Timestamp) (draft : TenantPolicy) :
    AsWritten [.create id now draft] (draft.created id now) where
  version := rfl
  content := by
    have hwrites : (Call.create id now draft).writes? draft.tenant id = some (now, draft) := by
      simp [Call.writes?, Call.tenant, Call.id, Call.written?]
    refine ⟨now, draft, ?_, rfl⟩
    rw [← List.nil_append [Call.create id now draft]]
    exact getLast?_writes? hwrites

theorem AsWritten.succeeding {existing : TenantPolicy} (h : AsWritten log existing)
    (howner : existing.tenant = draft.tenant) (hid : existing.id = draft.id) (now : Timestamp) :
    AsWritten (log ++ [.update now draft]) (draft.succeeding existing now) where
  version := by
    have hcount : (log ++ [Call.update now draft]).countP (Call.updates draft.tenant draft.id) =
        log.countP (Call.updates draft.tenant draft.id) + 1 := by
      rw [List.countP_append, List.countP_singleton, Call.updates, beq_self_eq_true,
        beq_self_eq_true, Bool.and_self, if_pos rfl]
    have hversion := h.version
    rw [howner, hid] at hversion
    show existing.version + 1 = 1 + (log ++ [_]).countP (Call.updates draft.tenant draft.id)
    rw [hcount, hversion, Nat.add_assoc]
  content := by
    have hwrites : (Call.update now draft).writes? draft.tenant draft.id = some (now, draft) := by
      simp [Call.writes?, Call.tenant, Call.id, Call.written?]
    exact ⟨now, draft, getLast?_writes? hwrites, rfl⟩

theorem told_created (log : List Call) (id : String) (now : Timestamp) (draft : TenantPolicy) :
    Told (log ++ [.create id now draft]) (draft.created id now) :=
  ⟨log, now, draft, [], rfl, rfl, asWritten_created id now draft⟩

theorem Told.concat {c : Call} (h : Told log p) (hne : ¬ (c.tenant = p.tenant ∧ c.id = p.id)) :
    Told (log ++ [c]) p := by
  obtain ⟨before, now, draft, after, rfl, hfor, hp⟩ := h
  exact ⟨before, now, draft, after ++ [c], List.append_assoc .., hfor, hp.concat hne⟩

theorem Told.succeeding {existing : TenantPolicy} (h : Told log existing)
    (howner : existing.tenant = draft.tenant) (hid : existing.id = draft.id) (now : Timestamp) :
    Told (log ++ [.update now draft]) (draft.succeeding existing now) := by
  obtain ⟨before, created, first, after, rfl, hfor, hp⟩ := h
  refine ⟨before, created, first, after ++ [.update now draft], ?_, hfor.trans howner, ?_⟩
  · rw [hid]
    exact List.append_assoc ..
  · have hsucceeding := hp.succeeding howner hid now
    rw [hid] at hsucceeding
    exact hsucceeding

/-! ### Along a history -/

theorem Traced.known_of_mem (h : Traced log s) (hp : p ∈ s.policies) :
    p.id ∈ log.filterMap Call.generated? := by
  have hadded : p.id ∈ (s.list p.tenant).map (·.id) :=
    List.mem_map_of_mem (mem_list.mpr ⟨hp, rfl⟩)
  rw [h.order, remaining, List.mem_filter, List.mem_filterMap] at hadded
  obtain ⟨⟨c, hc, hadds⟩, -⟩ := hadded
  rw [Call.adds?] at hadds
  split at hadds
  · exact List.mem_filterMap.mpr ⟨c, hc, hadds⟩
  · cases hadds

/-- An id that was not generated before is nowhere. -/
theorem Traced.create (h : Traced log s) (hid : id ∉ log.filterMap Call.generated?) :
    Traced (log ++ [.create id now draft]) (s.perform (.create id now draft)) := by
  have hpolicies : (s.perform (.create id now draft)).policies =
    s.policies ++ [draft.created id now] := rfl
  have hlist (tenant : String) : (s.perform (.create id now draft)).list tenant =
    if draft.tenant == tenant then s.list tenant ++ [draft.created id now] else s.list tenant :=
    list_create s id now draft tenant
  have hnew : ∀ c ∈ log, c.id ≠ id := fun c hc hcid => hid (hcid ▸ h.known c hc)
  have hother : ∀ q ∈ s.policies, id ≠ q.id := fun q hq hqid => hid (hqid ▸ h.known_of_mem hq)
  have hkept (tenant : String) (p : TenantPolicy) (hp : p ∈ s.list tenant) :
      p.tenant = tenant ∧ Told (log ++ [.create id now draft]) p :=
    ⟨(h.told tenant p hp).1,
      (h.told tenant p hp).2.concat fun habout => hother p (mem_list.mp hp).1 habout.2⟩
  refine ⟨⟨?ids, fun tenant => ?order, fun tenant p hp => ?told⟩, fun c hc => ?known⟩
  case ids =>
    rw [hpolicies, List.map_append]
    refine List.nodup_append.mpr ⟨h.ids, List.nodup_singleton _, fun a ha b hb => ?_⟩
    obtain ⟨q, hq, rfl⟩ := List.mem_map.mp ha
    rw [List.map_singleton, List.mem_singleton] at hb
    exact hb ▸ (hother q hq).symm
  case order =>
    rw [remaining_create hnew, ← h.order, hlist]
    split
    · exact List.map_append
    · exact (List.append_nil _).symm
  case told =>
    rw [hlist] at hp
    split at hp
    · rename_i ht
      rcases List.mem_append.mp hp with hp | hp
      · exact hkept tenant p hp
      · rw [List.mem_singleton.mp hp]
        exact ⟨beq_iff_eq.mp ht, told_created log id now draft⟩
    · exact hkept tenant p hp
  case known =>
    rw [List.filterMap_append]
    rcases List.mem_append.mp hc with hc | hc
    · exact List.mem_append_left _ (h.known c hc)
    · rw [List.mem_singleton.mp hc]
      exact List.mem_append_right _ (List.mem_singleton_self id)

theorem Traced.known_concat {c : Call} (h : Traced log s) (hp : p ∈ s.policies)
    (hid : p.id = c.id) : ∀ d ∈ log ++ [c], d.id ∈ (log ++ [c]).filterMap Call.generated? := by
  intro d hd
  rw [List.filterMap_append]
  rcases List.mem_append.mp hd with hd | hd
  · exact List.mem_append_left _ (h.known d hd)
  · rw [List.mem_singleton.mp hd, ← hid]
    exact List.mem_append_left _ (h.known_of_mem hp)

/-! Where ids are not used twice, the first policy that is found is the only one. -/

section Only

variable {own : List TenantPolicy} {named : TenantPolicy → Bool}

theorem id_ne_of_mem (hids : p.id ∉ own.map (·.id)) (hid : p.id = id) : ∀ q ∈ own, q.id ≠ id :=
  fun _ hq hqid => hids (List.mem_map.mpr ⟨_, hq, hqid.trans hid.symm⟩)

theorem eraseP_eq_filter (hids : (own.map (·.id)).Nodup)
    (hnamed : ∀ q ∈ own, named q = (q.id == id)) :
    own.eraseP named = own.filter (·.id ≠ id) := by
  induction own with
  | nil => rfl
  | cons q rest ih =>
    rw [List.map_cons, List.nodup_cons] at hids
    have hq := hnamed q (List.mem_cons_self ..)
    by_cases hid : q.id = id
    · rw [List.eraseP_cons_of_pos (hq.trans (beq_iff_eq.mpr hid)),
        List.filter_cons_of_neg (by simpa using hid)]
      exact (List.filter_eq_self.mpr fun r hr =>
        decide_eq_true (id_ne_of_mem hids.1 hid r hr)).symm
    · rw [List.eraseP_cons_of_neg (by simpa [hq] using hid),
        List.filter_cons_of_pos (by simpa using hid),
        ih hids.2 fun r hr => hnamed r (List.mem_cons_of_mem _ hr)]

theorem set_findIdx_eq_map (hids : (own.map (·.id)).Nodup)
    (hnamed : ∀ q ∈ own, named q = (q.id == id)) (new : TenantPolicy) :
    own.set (own.findIdx named) new = own.map fun q => if q.id == id then new else q := by
  induction own with
  | nil => rfl
  | cons q rest ih =>
    rw [List.map_cons, List.nodup_cons] at hids
    have hq := hnamed q (List.mem_cons_self ..)
    rw [List.map_cons]
    by_cases hid : (q.id == id) = true
    · rw [set_findIdx_cons_of_pos (hq.trans hid), if_pos hid]
      refine congrArg (new :: ·) ((List.map_congr_left fun r hr => ?_).trans (List.map_id _)).symm
      exact if_neg (mt beq_iff_eq.mp (id_ne_of_mem hids.1 (beq_iff_eq.mp hid) r hr))
    · rw [set_findIdx_cons_of_neg (hq ▸ hid), if_neg hid,
        ih hids.2 fun r hr => hnamed r (List.mem_cons_of_mem _ hr)]

theorem map_id_replaced {new : TenantPolicy} (h : new.id = id) (own : List TenantPolicy) :
    (own.map fun q => if q.id == id then new else q).map (·.id) = own.map (·.id) := by
  rw [List.map_map]
  refine List.map_congr_left fun q _ => ?_
  by_cases hq : (q.id == id) = true
  · rw [Function.comp_apply, if_pos hq]
    exact h.trans (beq_iff_eq.mp hq).symm
  · rw [Function.comp_apply, if_neg hq]

end Only

/-- A policy that is found is the only one with its id, whosever it is. -/
theorem owns_eq_id_beq {existing : TenantPolicy} (hids : (s.policies.map (·.id)).Nodup)
    (hmem : existing ∈ s.list tenant) (hid : existing.id = id) :
    ∀ q ∈ s.policies, owns tenant id q = (q.id == id) := by
  obtain ⟨hexisting, howner⟩ := mem_list.mp hmem
  intro q hq
  by_cases hqid : q.id = id
  · have hsame : q = existing :=
      List.inj_on_of_nodup_map hids hq hexisting (hqid.trans hid.symm)
    simp [owns, hsame, howner]
  · simp [owns, hqid]

theorem Traced.update {existing : TenantPolicy} (h : Traced log s)
    (hfind : (s.list draft.tenant).find? (·.id == draft.id) = some existing) :
    Traced (log ++ [.update now draft]) (s.perform (.update now draft)) := by
  obtain ⟨hmem, hid⟩ := mem_of_find?_id hfind
  have hpolicies : (s.perform (.update now draft)).policies = s.policies.map fun q =>
      if q.id == draft.id then draft.succeeding existing now else q := by
    rw [perform_update, hfind]
    exact set_findIdx_eq_map h.ids (owns_eq_id_beq h.ids hmem hid) _
  have hlist (tenant : String) : (s.perform (.update now draft)).list tenant =
      if draft.tenant == tenant then
        (s.list tenant).map fun q => if q.id == draft.id then draft.succeeding existing now else q
      else s.list tenant := by
    have hids : ((s.list tenant).map (·.id)).Nodup := h.ids.sublist (List.filter_sublist.map _)
    rw [list_perform, Call.tenant, Call.on]
    split
    · rename_i ht
      rw [← beq_iff_eq.mp ht, hfind]
      exact set_findIdx_eq_map (beq_iff_eq.mp ht ▸ hids) (fun _ _ => rfl) _
    · rfl
  have hsucceeding : (draft.succeeding existing now).id = draft.id := rfl
  refine ⟨⟨?ids, fun tenant => ?order, fun tenant p hp => ?told⟩,
    h.known_concat (mem_list.mp hmem).1 hid⟩
  case ids =>
    rw [hpolicies, map_id_replaced hsucceeding]
    exact h.ids
  case order =>
    rw [remaining_update, ← h.order, hlist]
    split
    · exact map_id_replaced hsucceeding _
    · rfl
  case told =>
    rw [hlist] at hp
    split at hp
    · rename_i ht
      obtain ⟨q, hq, rfl⟩ := List.mem_map.mp hp
      obtain ⟨howner, htold⟩ := h.told tenant q hq
      split
      · exact ⟨beq_iff_eq.mp ht,
          (h.told _ existing hmem).2.succeeding (h.told _ existing hmem).1 hid now⟩
      · rename_i hne
        exact ⟨howner, htold.concat fun habout => hne (beq_iff_eq.mpr habout.2.symm)⟩
    · rename_i ht
      obtain ⟨howner, htold⟩ := h.told tenant p hp
      exact ⟨howner, htold.concat fun habout => ht (beq_iff_eq.mpr (habout.1.trans howner))⟩

theorem Traced.delete {existing : TenantPolicy} {owner : String} (h : Traced log s)
    (hfind : (s.list owner).find? (·.id == id) = some existing) :
    Traced (log ++ [.delete owner id]) (s.perform (.delete owner id)) := by
  obtain ⟨hmem, hid⟩ := mem_of_find?_id hfind
  have hpolicies : (s.perform (.delete owner id)).policies = s.policies.filter (·.id ≠ id) := by
    rw [perform_delete, hfind]
    exact eraseP_eq_filter h.ids (owns_eq_id_beq h.ids hmem hid)
  have hlist (tenant : String) : (s.perform (.delete owner id)).list tenant =
      (s.list tenant).filter (·.id ≠ id) := by
    rw [list, hpolicies, List.filter_comm, ← list]
  refine ⟨⟨?ids, fun tenant => ?order, fun tenant p hp => ?told⟩,
    h.known_concat (mem_list.mp hmem).1 hid⟩
  case ids =>
    rw [hpolicies]
    exact h.ids.sublist (List.filter_sublist.map _)
  case order =>
    rw [remaining_delete, ← h.order, hlist]
    split
    · rw [List.filter_map]
      rfl
    · rename_i ht
      -- the policy that goes is another tenant's
      rw [List.filter_eq_self.mpr fun q hq => ?_]
      obtain ⟨hq, howner⟩ := mem_list.mp hq
      obtain ⟨hexisting, hexistingOwner⟩ := mem_list.mp hmem
      refine decide_eq_true fun hqid => ht ?_
      have hsame : q = existing :=
        List.inj_on_of_nodup_map h.ids hq hexisting (hqid.trans hid.symm)
      rw [← hexistingOwner, ← hsame, howner, beq_self_eq_true]
  case told =>
    rw [hlist, List.mem_filter, decide_eq_true_iff] at hp
    obtain ⟨howner, htold⟩ := h.told tenant p hp.1
    exact ⟨howner, htold.concat fun habout => hp.2 habout.2.symm⟩

/-- One call of a history, whether it succeeds or not. -/
theorem Traced.perform {c : Call} (h : Traced log s)
    (hfresh : ∀ id, c.generated? = some id → id ∉ log.filterMap Call.generated?) :
    Traced (log ++ if s.succeeds c then [c] else []) (s.perform c) := by
  cases hc : s.succeeds c with
  | false => simpa [perform_of_not_succeeds hc] using h
  | true =>
    rw [if_pos rfl]
    cases c with
    | create id now draft => exact h.create (hfresh id rfl)
    | update now draft =>
      obtain ⟨existing, hfind⟩ := exists_of_succeeds hc rfl
      exact h.update hfind
    | delete owner id =>
      obtain ⟨existing, hfind⟩ := exists_of_succeeds hc rfl
      exact h.delete hfind

theorem traced_run (calls : List Call) (h : (calls.filterMap Call.generated?).Nodup) :
    Traced (({} : Store).successes calls) (({} : Store).run calls) := by
  induction calls using List.reverseRecOn with
  | nil => exact ⟨⟨.nil, fun _ => rfl, fun _ _ hp => absurd hp List.not_mem_nil⟩,
      fun _ hc => absurd hc List.not_mem_nil⟩
  | append_singleton calls c ih =>
    rw [List.filterMap_append, List.nodup_append] at h
    rw [successes_concat, run_concat]
    refine (ih h.1).perform fun id hid hused => ?_
    rw [generated_successes] at hused
    exact h.2.2 id hused id (by simp [hid]) rfl

/-! ## Questions and further calls -/

/-- What a store does with its table. -/
structure ServesTable (s : Store) : Prop where
  get : ∀ tenant id p, s.get tenant id = .ok p ↔ p ∈ s.list tenant ∧ p.id = id
  delete : ∀ tenant id s', s.delete tenant id = .ok s' →
    s'.policies = s.policies.filter (·.id ≠ id)
  /-- A policy can be created at any time; the other calls need one that their tenant has. -/
  fails : ∀ c, s.succeeds c = false ↔
    c.generated? = none ∧ ∀ p ∈ s.list c.tenant, p.id ≠ c.id
  unchanged : ∀ c, s.succeeds c = false → s.perform c = s

theorem get_eq_ok_iff (hids : (s.policies.map (·.id)).Nodup) :
    s.get tenant id = .ok p ↔ p ∈ s.list tenant ∧ p.id = id := by
  rw [get_eq]
  cases hfind : (s.list tenant).find? (·.id == id) with
  | none =>
    have hnone : ∀ q ∈ s.list tenant, q.id ≠ id := by simpa using hfind
    exact iff_of_false (fun h => nomatch h) fun ⟨hp, hid⟩ => hnone p hp hid
  | some found =>
    obtain ⟨hfound, hfoundId⟩ := mem_of_find?_id hfind
    refine ⟨fun h => Except.ok.inj h ▸ ⟨hfound, hfoundId⟩, fun ⟨hp, hid⟩ => ?_⟩
    have hsame : found = p := List.inj_on_of_nodup_map hids (mem_list.mp hfound).1
      (mem_list.mp hp).1 (hfoundId.trans hid.symm)
    rw [hsame]

theorem policies_of_delete (hids : (s.policies.map (·.id)).Nodup)
    (h : s.delete tenant id = .ok s') : s'.policies = s.policies.filter (·.id ≠ id) := by
  rw [delete] at h
  cases hget : s.get tenant id with
  | error => rw [hget] at h; cases h
  | ok existing =>
    obtain ⟨hmem, hid⟩ := (get_eq_ok_iff hids).mp hget
    rw [hget] at h
    cases h
    exact eraseP_eq_filter hids (owns_eq_id_beq hids hmem hid)

theorem servesTable (hids : (s.policies.map (·.id)).Nodup) : ServesTable s where
  get _ _ _ := get_eq_ok_iff hids
  delete _ _ _ := policies_of_delete hids
  fails c := by
    rw [← Bool.not_eq_true, succeeds_iff, not_or, Option.not_isSome_iff_eq_none]
    simp only [not_exists, not_and, ne_eq]
  unchanged _ := perform_of_not_succeeds

/-- **The store is one table.** After any calls, of which those that create were given ids different
from each other, what a tenant has is told by the calls that succeeded, and the calls that failed
have left no trace. -/
theorem run_is_table (calls : List Call) (h : (calls.filterMap Call.generated?).Nodup) :
    Tabled (({} : Store).successes calls) (({} : Store).run calls) ∧
      ServesTable (({} : Store).run calls) ∧
      ({} : Store).run (({} : Store).successes calls) = ({} : Store).run calls :=
  have htraced := traced_run calls h
  ⟨htraced.toTabled, servesTable htraced.ids, run_successes {} calls⟩

/-- Callers write ids and versions of their own, one of them the id of another tenant's policy. -/
def forgedCalls : List Call := mixedCalls ++ [
  .create "a2" ⟨0, 4, 0⟩ { id := "g1", tenant := "acme", version := 7 },
  .update ⟨0, 5, 0⟩ { id := "a1", tenant := "globex" },
  .update ⟨0, 6, 0⟩ { id := "a1", tenant := "acme", name := "pay", version := 7 },
  .delete "globex" "g1"]

theorem forged_table :
    (forgedCalls.filterMap Call.generated?).Nodup ∧
      Tabled (({} : Store).successes forgedCalls) (({} : Store).run forgedCalls) ∧
      ServesTable (({} : Store).run forgedCalls) ∧
      (({} : Store).successes forgedCalls).length = 7 ∧
      (({} : Store).run forgedCalls).policies = [
        { id := "a1", tenant := "acme", name := "pay", modifiedAt := some ⟨0, 6, 0⟩, version := 3 },
        { id := "a2", tenant := "acme", modifiedAt := some ⟨0, 4, 0⟩, version := 1 }] := by
  have hfresh : (forgedCalls.filterMap Call.generated?).Nodup := by decide +kernel
  obtain ⟨htabled, hserves, -⟩ := run_is_table forgedCalls hfresh
  exact ⟨hfresh, htabled, hserves, by decide +kernel, by decide +kernel⟩

end Guardrail.Store
