import Mathlib.Data.List.Dedup
import Mathlib.Data.String.Basic

/-!
# `get_pkg_version` of the build script

The build script sets `SOLANA_SDK_VERSION` and `YELLOWSTONE_GRPC_PROTO_VERSION` to the versions
`Cargo.lock` lists for a package, each once, joined by commas. The versions pass through a
`HashSet`, and the order it yields them in is not the code's to choose: it is a parameter, any
rearrangement of the set's elements.
-/

namespace YellowstoneKafka.Build

/-- A `[[package]]` entry of `Cargo.lock`: its name and its version as `to_string` renders it. -/
structure Package where
  name : String
  version : String

/-- `get_pkg_version(lockfile, pkg_name)`, as the characters of the string it returns; `iter`
is the order the `HashSet` of versions yields its elements in. -/
def getPkgVersion (iter : List String → List String) (packages : List Package)
    (pkgName : String) : List Char :=
  [','].intercalate
    ((iter ((packages.filter (·.name = pkgName)).map (·.version)).dedup).map String.toList)

/-- Whatever order the `HashSet` yields, splitting the variable on commas gives each version the
lock file lists for the package exactly once, provided no version holds a comma; a package the
lock file does not list gives the empty string. -/
theorem getPkgVersion_versions (iter : List String → List String) (hiter : ∀ l, (iter l).Perm l)
    (packages : List Package) (pkgName : String)
    (hcomma : ∀ p ∈ packages, ',' ∉ p.version.toList) :
    ((∃ p ∈ packages, p.name = pkgName) →
      ((getPkgVersion iter packages pkgName).splitOn ',').Nodup ∧
      ∀ v : String, v.toList ∈ (getPkgVersion iter packages pkgName).splitOn ',' ↔
        ∃ p ∈ packages, p.name = pkgName ∧ p.version = v) ∧
    ((∀ p ∈ packages, p.name ≠ pkgName) → getPkgVersion iter packages pkgName = []) := by
  set versions := ((packages.filter (·.name = pkgName)).map (·.version)).dedup
  have hmem : ∀ v, v ∈ iter versions ↔ ∃ p ∈ packages, p.name = pkgName ∧ p.version = v :=
    fun v => by simp [(hiter _).mem_iff, versions, List.mem_dedup, and_assoc]
  refine ⟨fun ⟨p, hp, hname⟩ => ?_, fun hnone => ?_⟩
  · have hne : (iter versions).map String.toList ≠ [] := by
      simpa [List.eq_nil_iff_forall_not_mem] using ⟨p.version, (hmem _).mpr ⟨p, hp, hname, rfl⟩⟩
    have hpieces : (getPkgVersion iter packages pkgName).splitOn ',' =
        (iter versions).map String.toList := by
      refine List.splitOn_intercalate _ ',' (fun l hl => ?_) hne
      obtain ⟨v, hv, rfl⟩ := List.mem_map.mp hl
      obtain ⟨q, hq, -, rfl⟩ := (hmem v).mp hv
      exact hcomma q hq
    rw [hpieces]
    refine ⟨((hiter _).nodup_iff.mpr (List.nodup_dedup _)).map fun _ _ => String.toList_inj.mp,
      fun v => ?_⟩
    rw [List.mem_map_of_injective fun _ _ => String.toList_inj.mp, hmem]
  · have hnil : versions = [] := by
      simpa [versions, List.filter_eq_nil_iff] using hnone
    show [','].intercalate ((iter versions).map String.toList) = []
    rw [hnil, (hiter []).eq_nil]
    rfl

/-- A lock file listing `solana-sdk` twice at one version: the variable names it once. -/
theorem getPkgVersion_versions_at_duplicate :
    (∀ p ∈ [Package.mk "solana-sdk" "2.1.0", ⟨"solana-sdk", "2.1.0"⟩, ⟨"tokio", "1.41.0"⟩],
        ',' ∉ p.version.toList) ∧
      ((getPkgVersion id [⟨"solana-sdk", "2.1.0"⟩, ⟨"solana-sdk", "2.1.0"⟩, ⟨"tokio", "1.41.0"⟩]
        "solana-sdk").splitOn ',').Nodup := by
  have hc : ∀ p ∈ [Package.mk "solana-sdk" "2.1.0", ⟨"solana-sdk", "2.1.0"⟩, ⟨"tokio", "1.41.0"⟩],
      ',' ∉ p.version.toList := by decide
  exact ⟨hc, ((getPkgVersion_versions id (fun l => .refl l) _ "solana-sdk" hc).1
    ⟨_, List.mem_cons_self _ _, rfl⟩).1⟩

end YellowstoneKafka.Build
