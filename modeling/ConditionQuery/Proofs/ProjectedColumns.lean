import ConditionQuery.Proofs.StatementText
import Mathlib.Data.List.Count
import Mathlib.Data.List.DropRight

/-! Columns of the sub-select. Each call of the most recent value projects the column that is named
for its join key, and the statement joins on these columns. Calls with one key project one column
several times, so the columns are distinct exactly if the keys are. -/
namespace ConditionQuery

namespace Text

/-- What stands after the last blank of a text. -/
def lastWord (s : String) : String := String.ofList (s.toList.rtakeWhile (· ≠ ' '))

theorem lastWord_append {word : String} (unbroken : ' ' ∉ word.toList) (front : String) :
    lastWord (front ++ " " ++ word) = word := by
  have letters : ∀ c ∈ word.toList.reverse, decide (c ≠ ' ') = true := by
    intro c member
    exact decide_eq_true fun blank => unbroken (blank ▸ List.mem_reverse.1 member)
  rw [lastWord, List.rtakeWhile, String.toList_append, List.reverse_append,
    List.takeWhile_append_of_pos letters]
  simp

end Text

namespace Link

variable (options : CompileOptions)

/-- A projection ends in the name of its column. -/
theorem lastWord_projection {key : String} (unbroken : ' ' ∉ key.toList) :
    Text.lastWord (projection options key) = "MAX_" ++ key := by
  have parted : projection options key =
      ("MAX(" ++ (options.table ++ "." ++ key) ++ ") AS") ++ " " ++ ("MAX_" ++ key) := by
    simp [projection, ← String.toList_inj]
  rw [parted]
  exact Text.lastWord_append (by simp [unbroken]) _

/-- An equation ends in the column of the sub-select. -/
theorem lastWord_equation {attr projected : String}
    (subquery : ' ' ∉ options.subqueryAlias.toList) (unbroken : ' ' ∉ projected.toList) :
    Text.lastWord (equation options attr projected) =
      options.subqueryAlias ++ "." ++ projected := by
  have parted : equation options attr projected =
      (options.table ++ "." ++ attr ++ " =") ++ " " ++
        (options.subqueryAlias ++ "." ++ projected) := by
    simp [equation, ← String.toList_inj]
  rw [parted]
  exact Text.lastWord_append (by simp [subquery, unbroken]) _

end Link

/-- The columns that the sub-select of a condition projects. -/
def CorrelatedJoin.columns (join : CorrelatedJoin) : List String :=
  join.subSelect.map Text.lastWord

namespace Expr

variable {options : CompileOptions} {e : Expr} {c : CompiledCondition}

theorem columns_eq (names : e.NamesAll (fun name => isIdentifier name = true) options)
    (compiled : e.compile options = .ok c) :
    c.join.columns = e.joinKeys.map ("MAX_" ++ ·) := by
  have projections : c.join.subSelect = e.joinKeys.map (Link.projection options) := by
    rw [join_eq compiled, CorrelatedJoin.extend, key?_of_links]
    rfl
  rw [CorrelatedJoin.columns, projections, List.map_map]
  apply List.map_congr_left
  intro key member
  have word := isWord_of_isIdentifier (names.2 key (joinKeys_subset e member))
  exact Link.lastWord_projection options (word.not_mem (by decide))

/-- The sub-select projects one column for each call of the most recent value, named for its join
key. No two columns are alike exactly if no two keys are; and each column that the statement joins
on is projected once for each call with the key. -/
theorem columns_of_compile (names : e.NamesAll (fun name => isIdentifier name = true) options)
    (subquery : isIdentifier options.subqueryAlias = true)
    (compiled : e.compile options = .ok c) :
    (∀ site ∈ e.sites, site.key?.isSome = site.isLast) ∧
      c.join.columns = e.joinKeys.map ("MAX_" ++ ·) ∧
      (c.join.columns.Nodup ↔ e.joinKeys.Nodup) ∧
      (∀ fragment ∈ c.join.aggregateJoin, ∃ key ∈ e.joinKeys,
        Text.lastWord fragment = options.subqueryAlias ++ "." ++ ("MAX_" ++ key) ∧
          c.join.columns.count ("MAX_" ++ key) = e.joinKeys.count key) ∧
      ∀ projection text, c.join.hasSubSelect = true →
        c.statement projection text = projection.text ++ " FROM " ++ options.table ++
          (" JOIN (SELECT " ++ ", ".intercalate c.join.subSelect ++ " FROM " ++ options.table ++
            ") AS " ++ options.subqueryAlias ++ " ON " ++
            " AND ".intercalate c.join.aggregateJoin) ++
          (if text.isEmpty then "" else " WHERE " ++ text) := by
  have columns := columns_eq names compiled
  have injective : Function.Injective ("MAX_" ++ · : String → String) :=
    fun _ _ same => (String.append_right_inj _).1 same
  refine ⟨isSome_key?_of_compile compiled, columns, ?_, ?_, ?_⟩
  · rw [columns]
    exact List.nodup_map_iff injective
  · intro fragment member
    rw [join_eq compiled, CorrelatedJoin.extend, key?_of_links] at member
    obtain ⟨key, known, rfl⟩ := List.mem_map.1 member
    have unbroken {name : String} (identifier : isIdentifier name = true) : ' ' ∉ name.toList :=
      (isWord_of_isIdentifier identifier).not_mem (by decide)
    have keyUnbroken := unbroken (names.2 key (joinKeys_subset e known))
    refine ⟨key, known, ?_, ?_⟩
    · exact Link.lastWord_equation options (unbroken subquery) (by simp [keyUnbroken])
    · rw [columns]
      exact List.count_map_of_injective e.joinKeys _ injective key
  · intro projection text joined
    have aliased : c.join.aliasName = options.subqueryAlias := by
      rw [join_eq compiled]
      rfl
    rw [CompiledCondition.statement, if_pos joined, table_of_compile compiled, aliased]
    rfl

/-- The calls of `latestRows` have two keys. -/
theorem columns_of_latestRows :
    ∃ c, latestRows.compile (.forTable "T") = .ok c ∧
      c.join.columns = ["MAX_symbol", "MAX_time"] ∧ c.join.columns.Nodup ∧
      c.selectStatement = "SELECT * FROM T JOIN (SELECT " ++
        "MAX(T.symbol) AS MAX_symbol, MAX(T.time) AS MAX_time FROM T) AS S ON " ++
        "T.symbol = S.MAX_symbol AND T.time = S.MAX_time" ++
        " WHERE (((T.symbol = MAX(T.price))) AND (MAX(T.volume) = T.limit))" := by
  have compiled := compile_eq (.forTable "T") latestRows
  obtain ⟨-, columns, distinct, -, statement⟩ :=
    columns_of_compile (by decide) (by decide) compiled
  refine ⟨_, compiled, ?_, distinct.2 (by decide), ?_⟩
  · rw [columns]
    decide
  · rw [CompiledCondition.selectStatement, statement _ _ (by decide)]
    decide +kernel

/-- Two calls with one key. -/
def sharedKey : Expr :=
  .and
    (.compare .greaterThan
      (.function (some "incrementalAggregator") "last"
        [.storeVariable "T" "price" .float, .storeVariable "T" "ts" .long])
      (.constant (.long 10) .int))
    (.compare .greaterThan
      (.function (some "incrementalAggregator") "last"
        [.storeVariable "T" "volume" .float, .storeVariable "T" "ts" .long])
      (.constant (.long 5) .int))

/-- All its names are identifiers, and yet the sub-select has two columns of one name. -/
theorem columns_of_sharedKey :
    ∃ c, sharedKey.compile (.forTable "T") = .ok c ∧
      sharedKey.NamesAll (fun name => isIdentifier name = true) (.forTable "T") ∧
      isIdentifier (CompileOptions.forTable "T").subqueryAlias = true ∧
      c.join.columns = ["MAX_ts", "MAX_ts"] ∧ ¬ c.join.columns.Nodup ∧
      c.selectStatement = "SELECT * FROM T JOIN (SELECT " ++
        "MAX(T.ts) AS MAX_ts, MAX(T.ts) AS MAX_ts FROM T) AS S ON " ++
        "T.ts = S.MAX_ts AND T.ts = S.MAX_ts" ++
        " WHERE (((MAX(T.price) > ?)) AND (MAX(T.volume) > ?))" := by
  have compiled := compile_eq (.forTable "T") sharedKey
  refine ⟨_, compiled, by decide, by decide, by decide +kernel, by decide +kernel,
    by decide +kernel⟩

end Expr
end ConditionQuery
