import ArtifactPipeline.Proofs.ImportSpacing
import ArtifactPipeline.Proofs.Representation

/-!
# Allowing what is reported

The packages of a component that its tenant may not import are reported, and a permission for a
package is recorded in the store under the name that is reported. So permissions take exactly their
packages off the report, and the component passes as soon as each package of the report is
permitted. Nothing that the store is asked to do puts a package on the report.
-/

namespace ArtifactPipeline

/-! ## Reports -/

namespace Imports

variable {code : List Char} {allowed more : List String} {package : String}

/-- The packages of a source are listed once each. -/
theorem nodup_packages (code : List Char) : (packages code).Nodup := nodup_eraseDups _

/-- A package is reported if the source imports it and it is not allowed. -/
theorem mem_disallowed :
    package ∈ disallowed code allowed ↔ package ∈ packages code ∧ package ∉ allowed := by
  simp [disallowed]

/-- Allowing further packages takes these off the report. -/
theorem disallowed_of_mem_iff {added : List String}
    (h : ∀ package, package ∈ more ↔ package ∈ allowed ∨ package ∈ added) :
    disallowed code more = (disallowed code allowed).filter (· ∉ added) := by
  rw [disallowed, disallowed, List.filter_filter]
  refine List.filter_congr fun package _ => ?_
  have hpackage := h package
  by_cases hallowed : package ∈ allowed
  · simp [hpackage, hallowed]
  · simp [hpackage, hallowed]

/-- Allowing more packages never puts one on the report. -/
theorem disallowed_sublist (h : allowed ⊆ more) :
    (disallowed code more).Sublist (disallowed code allowed) := by
  have hmore : ∀ package, package ∈ more ↔ package ∈ allowed ∨ package ∈ more := fun package =>
    (or_iff_right_of_imp fun hallowed => h hallowed).symm
  rw [disallowed_of_mem_iff hmore]
  exact List.filter_sublist

end Imports

/-! ## Permissions -/

/-- A package is allowed, for one tenant or for all. -/
structure Permission where
  scope : Option String
  package : String

/-- The call of the store that records a permission. -/
def Permission.event (p : Permission) : StoreEvent :=
  .call (.addAllowedDependency p.scope p.package)

namespace MemoryStore

variable {m : MemoryStore} {permissions : List Permission} {package tenant : String}
  {code : List Char}

/-- The store after some permissions have been recorded, one after another. -/
def permit (m : MemoryStore) (permissions : List Permission) : MemoryStore :=
  m.run (permissions.map (·.event))

/-- The packages that are reported for a component of a tenant. -/
def reports (m : MemoryStore) (tenant : String) (code : List Char) : List String :=
  Imports.disallowed code (m.resolvedAllowlist tenant)

/-- No package is reported twice. -/
theorem nodup_reports (m : MemoryStore) (tenant : String) (code : List Char) :
    (m.reports tenant code).Nodup := (Imports.nodup_packages code).filter _

/-- Packages are reported in the order in which the source imports them. -/
theorem reports_sublist (m : MemoryStore) (tenant : String) (code : List Char) :
    (m.reports tenant code).Sublist (Imports.packages code) := List.filter_sublist

/-- A list of packages gains the one that is put into it and loses none. -/
theorem mem_insertPackage {other : String} {packages : List String} :
    package ∈ insertPackage other packages ↔ package ∈ packages ∨ package = other := by
  unfold insertPackage
  split
  · next hknown =>
    refine (or_iff_left_of_imp ?_).symm
    rintro rfl
    simpa using hknown
  · rw [List.mem_append, List.mem_singleton]

/-- A package is allowed for a tenant if it is allowed for that tenant or for all. -/
theorem mem_resolvedAllowlist : package ∈ m.resolvedAllowlist tenant ↔
    package ∈ m.packagesFor (some tenant) ∨ package ∈ m.packagesFor none := by
  rw [resolvedAllowlist, List.mem_eraseDups, List.mem_append]
  rfl

/-- A package is reported unless it is allowed for the tenant or for all. -/
theorem mem_reports : package ∈ m.reports tenant code ↔ package ∈ Imports.packages code ∧
    package ∉ m.packagesFor (some tenant) ∧ package ∉ m.packagesFor none := by
  rw [reports, Imports.mem_disallowed, mem_resolvedAllowlist, not_or]

/-- While the store is online, it records a permission. -/
theorem step_permission (h : m.offline = false) (p : Permission) :
    m.step p.event = m.allow p.scope p.package ∧ (m.step p.event).offline = false := by
  have hstep : m.step p.event = m.allow p.scope p.package := by
    simp only [step, Permission.event, call, h, Bool.false_eq_true, if_false]
    rfl
  rw [hstep]
  exact ⟨rfl, (m.offline_written (.addAllowedDependency p.scope p.package)).trans h⟩

/-- A store that is online stays so, and allows what it did and what has been permitted. -/
theorem mem_packagesFor_permit (h : m.offline = false) (permissions : List Permission)
    (scope : Option String) : (m.permit permissions).offline = false ∧ ∀ package,
      package ∈ (m.permit permissions).packagesFor scope ↔ package ∈ m.packagesFor scope ∨
        ∃ p ∈ permissions, p.scope = scope ∧ p.package = package := by
  induction permissions generalizing m with
  | nil => exact ⟨h, fun package => by simp [permit, run]⟩
  | cons p permissions ih =>
    obtain ⟨hstep, honline⟩ := step_permission h p
    obtain ⟨hlater, hmem⟩ := ih honline
    refine ⟨hlater, fun package => (hmem package).trans ?_⟩
    rw [hstep, packagesFor_allow]
    by_cases hscope : p.scope = scope
    · rw [if_pos hscope, mem_insertPackage]
      simp [hscope, or_assoc, eq_comm]
    · rw [if_neg hscope]
      simp [hscope]

/-- The allowed packages can be read behind permissions. -/
theorem call_allowlist_permit (h : m.offline = false) (permissions : List Permission) :
    (m.permit permissions).call (.allowlist tenant) =
      .ok ((m.permit permissions).resolvedAllowlist tenant, m.permit permissions) := by
  have honline := (mem_packagesFor_permit h permissions none).1
  rw [call, if_neg (by simp [honline])]
  rfl

/-- After some permissions a package is allowed for a tenant if it was before or if one of them
says so, for that tenant or for all. -/
theorem mem_resolvedAllowlist_permit (h : m.offline = false) :
    package ∈ (m.permit permissions).resolvedAllowlist tenant ↔
      package ∈ m.resolvedAllowlist tenant ∨
        ∃ p ∈ permissions, (p.scope = none ∨ p.scope = some tenant) ∧ p.package = package := by
  rw [mem_resolvedAllowlist, mem_resolvedAllowlist,
    (mem_packagesFor_permit h permissions (some tenant)).2,
    (mem_packagesFor_permit h permissions none).2]
  constructor
  · rintro ((hown | ⟨p, hp, hscope, hpackage⟩) | hall | ⟨p, hp, hscope, hpackage⟩)
    · exact .inl (.inl hown)
    · exact .inr ⟨p, hp, .inr hscope, hpackage⟩
    · exact .inl (.inr hall)
    · exact .inr ⟨p, hp, .inl hscope, hpackage⟩
  · rintro ((hown | hall) | ⟨p, hp, hscope | hscope, hpackage⟩)
    · exact .inl (.inl hown)
    · exact .inr (.inl hall)
    · exact .inr (.inr ⟨p, hp, hscope, hpackage⟩)
    · exact .inl (.inr ⟨p, hp, hscope, hpackage⟩)

/-- Permissions for a tenant or for all take their packages off the report for that tenant. -/
theorem reports_permit (h : m.offline = false)
    (hscopes : ∀ p ∈ permissions, p.scope = none ∨ p.scope = some tenant) :
    (m.permit permissions).reports tenant code =
      (m.reports tenant code).filter (· ∉ permissions.map (·.package)) := by
  refine Imports.disallowed_of_mem_iff fun package => ?_
  rw [mem_resolvedAllowlist_permit h, List.mem_map]
  refine or_congr_right ⟨?_, ?_⟩
  · rintro ⟨p, hp, -, hpackage⟩
    exact ⟨p, hp, hpackage⟩
  · rintro ⟨p, hp, hpackage⟩
    exact ⟨p, hp, hscopes p hp, hpackage⟩

/-- A component passes the check of its imports as soon as each package of the report is
permitted, and no sooner. -/
theorem check_permit_eq_none_iff (h : m.offline = false)
    (hscopes : ∀ p ∈ permissions, p.scope = none ∨ p.scope = some tenant) (rule : Rule)
    (cache : RegexCache) :
    (Policy.check code ((m.permit permissions).resolvedAllowlist tenant)
      { rule with kind := .dependencyAllowlist } cache).1 = none ↔
    ∀ package ∈ m.reports tenant code, package ∈ permissions.map (·.package) := by
  have hreport : Imports.disallowed code ((m.permit permissions).resolvedAllowlist tenant) =
      (m.reports tenant code).filter (· ∉ permissions.map (·.package)) := reports_permit h hscopes
  rw [← Option.not_isSome_iff_eq_none, Imports.check_isSome_iff, hreport]
  simp [List.mem_filter]

/-- Permissions for a tenant leave the report for another one as it is. -/
theorem reports_permit_other (h : m.offline = false)
    (hscopes : ∀ p ∈ permissions, p.scope = some tenant) {other : String}
    (hother : other ≠ tenant) :
    (m.permit permissions).reports other code = m.reports other code := by
  have hreport : (m.permit permissions).reports other code =
      (m.reports other code).filter (· ∉ ([] : List String)) := by
    refine Imports.disallowed_of_mem_iff fun package => ?_
    rw [mem_resolvedAllowlist_permit h]
    refine or_congr_right (iff_of_false ?_ List.not_mem_nil)
    rintro ⟨p, hp, hscope | hscope, -⟩
    · rw [hscopes p hp] at hscope
      cases hscope
    · rw [hscopes p hp] at hscope
      exact hother (Option.some.inj hscope).symm
  simpa using hreport

/-- A package that is allowed stays so, whatever the store is asked to do. -/
theorem packagesFor_step_subset (m : MemoryStore) (event : StoreEvent) (scope : Option String) :
    m.packagesFor scope ⊆ (m.step event).packagesFor scope := by
  cases event with
  | setOffline offline => cases scope <;> exact List.Subset.refl _
  | call c =>
    rcases m.step_call c with hsame | hwritten
    · rw [hsame]
      exact List.Subset.refl _
    · rw [hwritten, packagesFor_written]
      split
      · exact fun package hpackage => mem_insertPackage.mpr (.inl hpackage)
      · exact List.Subset.refl _

/-- No event takes a permission back. -/
theorem packagesFor_run_subset (m : MemoryStore) (events : List StoreEvent)
    (scope : Option String) : m.packagesFor scope ⊆ (m.run events).packagesFor scope := by
  induction events generalizing m with
  | nil => exact List.Subset.refl _
  | cons event events ih =>
    exact List.Subset.trans (m.packagesFor_step_subset event scope) (ih (m.step event))

/-- No event puts a package on the report. -/
theorem reports_run_sublist (m : MemoryStore) (events : List StoreEvent) (tenant : String)
    (code : List Char) : ((m.run events).reports tenant code).Sublist (m.reports tenant code) := by
  refine Imports.disallowed_sublist fun package hpackage => ?_
  rw [mem_resolvedAllowlist] at hpackage ⊢
  exact hpackage.imp (m.packagesFor_run_subset events _ ·) (m.packagesFor_run_subset events _ ·)

/-- What is reported of a component are its packages that the store does not allow its tenant, each
once and in the order in which they are imported. Permissions for the tenant or for all take exactly
their packages off the report, so the component passes iff each package of the report is permitted.
Permissions for the tenant change no report for another one. More allowed packages never make the
report longer, and neither does anything else that the store is asked to do. -/
theorem reports_settled_by_permissions (m : MemoryStore) (h : m.offline = false) (tenant : String)
    (code : List Char) :
    ((m.reports tenant code).Nodup ∧
      (m.reports tenant code).Sublist (Imports.packages code) ∧
      ∀ package, package ∈ m.reports tenant code ↔ package ∈ Imports.packages code ∧
        package ∉ m.packagesFor (some tenant) ∧ package ∉ m.packagesFor none) ∧
    (∀ permissions, (m.permit permissions).call (.allowlist tenant) =
      .ok ((m.permit permissions).resolvedAllowlist tenant, m.permit permissions)) ∧
    (∀ permissions : List Permission,
      (∀ p ∈ permissions, p.scope = none ∨ p.scope = some tenant) →
      (m.permit permissions).reports tenant code =
        (m.reports tenant code).filter (· ∉ permissions.map (·.package)) ∧
      ∀ (rule : Rule) (cache : RegexCache),
        (Policy.check code ((m.permit permissions).resolvedAllowlist tenant)
          { rule with kind := .dependencyAllowlist } cache).1 = none ↔
        ∀ package ∈ m.reports tenant code, package ∈ permissions.map (·.package)) ∧
    (∀ permissions : List Permission, (∀ p ∈ permissions, p.scope = some tenant) →
      ∀ other ≠ tenant, ∀ text,
        (m.permit permissions).reports other text = m.reports other text) ∧
    (∀ allowed more : List String, allowed ⊆ more →
      (Imports.disallowed code more).Sublist (Imports.disallowed code allowed)) ∧
    ∀ events, ((m.run events).reports tenant code).Sublist (m.reports tenant code) := by
  refine ⟨⟨m.nodup_reports tenant code, m.reports_sublist tenant code, fun _ => mem_reports⟩,
    call_allowlist_permit h, ?_, ?_, ?_, ?_⟩
  · intro permissions hscopes
    exact ⟨reports_permit h hscopes, check_permit_eq_none_iff h hscopes⟩
  · intro permissions hscopes other hother text
    exact reports_permit_other h hscopes hother
  · intro allowed more hsub
    exact Imports.disallowed_sublist hsub
  · intro events
    exact m.reports_run_sublist events tenant code

/-- A tenant with the standard policy imports a package. It is permitted twice, for the tenant and
for all, and then the component passes. A permission for the tenant alone does not help another
one. -/
theorem reports_settled_by_permissions_twice :
    let m := MemoryStore.withPolicy 500
    let t : Imports.TakingImport :=
      { Imports.TakingImport.packed with afterImport := [' '], afterImport_blank := by decide }
    let rule : Rule := { name := "imports", kind := .dependencyAllowlist, severity := .block }
    let own : Permission := ⟨some "acme", "left-pad"⟩
    let forAll : Permission := ⟨none, "left-pad"⟩
    m.offline = false ∧ "left-pad" ∈ m.reports "acme" t.source ∧
      (Policy.check t.source ((m.permit [own, forAll]).resolvedAllowlist "acme") rule
        { limit := 1048576 }).1 = none ∧
      "left-pad" ∈ (m.permit [own]).reports "globex" t.source := by
  intro m t rule own forAll
  have honline : m.offline = false := rfl
  obtain ⟨⟨-, -, hmem⟩, -, hpermit, hother, -⟩ :=
    reports_settled_by_permissions m honline "acme" t.source
  have hpackage : ∀ package, package ∈ Imports.packages t.source ↔ "left-pad" = package := by
    intro package
    rw [t.mem_packages_source]
    have hname : (Imports.packageName t.path).map String.ofList = some "left-pad" := by decide
    simp [hname, t]
  have hown : ∀ tenant, "left-pad" ∉ m.packagesFor (some tenant) := fun tenant => List.not_mem_nil
  have hall : "left-pad" ∉ m.packagesFor none := by decide
  have hreported : ∀ tenant, "left-pad" ∈ m.reports tenant t.source := by
    intro tenant
    exact mem_reports.mpr ⟨(hpackage _).mpr rfl, hown tenant, hall⟩
  refine ⟨honline, hreported "acme", ?_, ?_⟩
  · refine ((hpermit [own, forAll] (by simp [own, forAll])).2 rule { limit := 1048576 }).mpr ?_
    intro package hreport
    rw [← (hpackage package).mp ((hmem package).mp hreport).1]
    exact List.mem_cons_self
  · rw [hother [own] (by simp [own]) "globex" (by decide)]
    exact hreported "globex"

end MemoryStore

end ArtifactPipeline
