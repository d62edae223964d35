import PgVitals.Descriptor.Environment
import PgVitals.Proofs.Descriptor.Form

/-!
# Values of the environment stay values

A descriptor that is built from variables is read again by whoever connects with it, so a value that
ended early or opened a new pair would change the options of the connection.  No value does: quoting
makes one written value of it, and pairs whose values are quoted are read as the same keys with the
same values.  The separator of schemes may stand in a value too, because the first key decides how
the text is read.
-/

namespace PgVitals

namespace KeyValue

/-! ## Pairs with quoted values -/

/-- The pairs that give these values to these keys. -/
def quotedPairs (options : List (String × String)) : List Pair :=
  options.map fun (key, value) => ⟨key, Value.quote value⟩

/-- The keys of the descriptor with the values given to them. -/
def options (d : KeyValue) : List (String × String) :=
  d.pairs.map fun p => (p.key, Value.unquote p.raw)

/-- The text can stand as a key: it is not empty, and reading a key would not stop inside it. -/
def IsKey (key : String) : Prop := key.toList ≠ [] ∧ key.toList.all isKeyChar = true

instance (key : String) : Decidable (IsKey key) := inferInstanceAs (Decidable (_ ∧ _))

theorem options_quotedPairs (options : List (String × String)) :
    KeyValue.options ⟨quotedPairs options⟩ = options := by
  simp [KeyValue.options, quotedPairs, Function.comp_def, Value.unquote_quote]

theorem isWritten_quotedPairs {options : List (String × String)}
    (h : ∀ option ∈ options, IsKey option.1) : IsWritten (quotedPairs options) := by
  constructor
  · intro p hp
    obtain ⟨option, hoption, rfl⟩ := List.mem_map.1 hp
    obtain ⟨hne, hchars⟩ := h option hoption
    exact isWritten_quote hne (List.all_eq_true.1 hchars) option.2
  · -- No value is written as the empty text, so none has to stand at the end.
    rw [quotedPairs, List.pairwise_map]
    exact List.pairwise_of_forall fun option _ => Value.quote_ne_empty option.2

/-- **Pairs with quoted values are read as those pairs,** whatever the values are. -/
theorem read_text_quotedPairs {key value : String} {rest : List (String × String)}
    (hkeys : ∀ option ∈ (key, value) :: rest, IsKey option.1)
    (hopens : Descriptor.OpensPairs key.toList) :
    Descriptor.read (text ⟨quotedPairs ((key, value) :: rest)⟩) =
      .ok (.keyValue ⟨quotedPairs ((key, value) :: rest)⟩) :=
  Descriptor.read_text (isWritten_quotedPairs hkeys) hopens

/-- The database is the value of the last option when that one names a database. -/
theorem database?_of_options {d : KeyValue} {before : List (String × String)} {database : String}
    (h : d.options = before ++ [(databaseKey, database)]) : d.database? = some database := by
  obtain ⟨front, back, hpairs, -, hback⟩ := List.map_eq_append_iff.1 h
  obtain ⟨p, rfl, hp⟩ := List.map_eq_singleton_iff.1 hback
  obtain ⟨hkey, hvalue⟩ := Prod.mk.inj hp
  rw [database?, hpairs, List.reverse_append, List.reverse_singleton, List.singleton_append,
    List.find?_cons_of_pos (by simpa using hkey), Option.map_some, hvalue]

theorem isKey_databaseKey : IsKey databaseKey := by
  decide +kernel

theorem opensPairs_databaseKey : Descriptor.OpensPairs databaseKey.toList := by
  refine ⟨fun scheme => ?_, by decide +kernel⟩
  cases scheme <;> decide +kernel

/-- The one pair that names a database is read as naming it. -/
theorem read_quote (database : String) :
    ∃ d, Descriptor.read ("dbname=" ++ Value.quote database) = .ok (.keyValue d) ∧
      d.database? = some database := by
  have htext :
      text ⟨quotedPairs [(databaseKey, database)]⟩ = "dbname=" ++ Value.quote database := by
    simp [text, quotedPairs, Pair.text, databaseKey]
  have hkeys : ∀ option ∈ [(databaseKey, database)], IsKey option.1 := by
    intro option hoption
    rw [List.mem_singleton.1 hoption]
    exact isKey_databaseKey
  refine ⟨_, htext ▸ read_text_quotedPairs hkeys opensPairs_databaseKey, ?_⟩
  exact database?_of_options (options_quotedPairs ([] ++ [(databaseKey, database)]))

end KeyValue

namespace Environment

open KeyValue

/-! ## The descriptor of an environment -/

theorem opensPairs_host : Descriptor.OpensPairs "host".toList := by
  refine ⟨fun scheme => ?_, by decide +kernel⟩
  cases scheme <;> decide +kernel

theorem isKey_descriptorPairs (env : Environment) (user : String) :
    ∀ option ∈ env.descriptorPairs user, IsKey option.1 := by
  have hkeys : ∀ key ∈ ["host", "port", "user", "password", "dbname"], IsKey key := by
    decide +kernel
  intro option hoption
  apply hkeys
  dsimp only [descriptorPairs] at hoption
  split at hoption
  · simp only [List.append_nil, List.cons_append, List.nil_append, List.mem_cons,
      List.not_mem_nil, or_false] at hoption
    obtain rfl | rfl | rfl | rfl := hoption <;> simp
  · simp only [List.cons_append, List.nil_append, List.mem_cons, List.not_mem_nil,
      or_false] at hoption
    obtain rfl | rfl | rfl | rfl | rfl := hoption <;> simp

/-- The descriptor of an environment is read as the options that the variables ask for. -/
theorem read_descriptorText (env : Environment) {user : String}
    (huser : (env.get? "PGUSER").or (env.get? "USER") = some user) :
    ∃ text d, env.descriptorText = .ok text ∧ Descriptor.read text = .ok (.keyValue d) ∧
      d.options = env.descriptorPairs user := by
  have htext : env.descriptorText =
      .ok (KeyValue.text ⟨quotedPairs (env.descriptorPairs user)⟩) := by
    rw [descriptorText, huser]
    rfl
  have hread := read_text_quotedPairs (isKey_descriptorPairs env user) opensPairs_host
  exact ⟨_, _, htext, hread, options_quotedPairs _⟩

/-- **No value breaks out of a descriptor.**  A quoted value behind the key of the database is read
as that value; and the descriptor of an environment that names a user has exactly the options of the
environment, in a fixed order, the password among them only when it is not empty. -/
theorem descriptorText_keeps_values :
    (∀ value : String, ∃ d, Descriptor.read ("dbname=" ++ Value.quote value) = .ok d ∧
      d.database? = some value) ∧
    ∀ env : Environment, (env.get? "PGUSER").isSome ∨ (env.get? "USER").isSome →
      ∃ user text d,
        (env.get? "PGUSER" = some user ∨
          env.get? "PGUSER" = none ∧ env.get? "USER" = some user) ∧
        env.descriptorText = .ok text ∧ Descriptor.read text = .ok (.keyValue d) ∧
        d.pairs.map (fun p => (p.key, Value.unquote p.raw)) =
          [("host", (env.get? "PGHOST").getD "localhost"),
            ("port", (env.get? "PGPORT").getD "5432"), ("user", user)] ++
          (if (env.get? "PGPASSWORD").getD "" = "" then []
            else [("password", (env.get? "PGPASSWORD").getD "")]) ++
          [("dbname", (env.get? "PGDATABASE").getD user)] := by
  constructor
  · intro value
    obtain ⟨d, hread, hdatabase⟩ := read_quote value
    exact ⟨_, hread, hdatabase⟩
  · intro env hset
    obtain ⟨user, huser⟩ : ∃ user, (env.get? "PGUSER").or (env.get? "USER") = some user := by
      rw [← Option.isSome_iff_exists, Option.isSome_or, Bool.or_eq_true]
      exact hset
    obtain ⟨text, d, htext, hread, hoptions⟩ := read_descriptorText env huser
    refine ⟨user, text, d, Option.or_eq_some_iff.1 huser, htext, hread, ?_⟩
    simpa only [KeyValue.options, descriptorPairs, String.isEmpty_iff] using hoptions

/-- A user taken from the second variable, a password with quotes, a backslash and what looks like
another pair, and a database whose name looks like a URI. -/
theorem descriptorText_keeps_hostile_values :
    let env : Environment := ((Dictionary.empty.insert "USER" "a b").insert "PGPASSWORD"
      "it's \\ host=evil").insert "PGDATABASE" "x://y z"
    ∃ text d, env.descriptorText = .ok text ∧
      text = "host=localhost port=5432 user='a b' password='it\\'s \\\\ host=evil' " ++
        "dbname='x://y z'" ∧
      Descriptor.read text = .ok (.keyValue d) ∧
      d.pairs.map (fun p => (p.key, Value.unquote p.raw)) =
        [("host", "localhost"), ("port", "5432"), ("user", "a b"),
          ("password", "it's \\ host=evil"), ("dbname", "x://y z")] := by
  intro env
  have hset : (env.get? "PGUSER").isSome ∨ (env.get? "USER").isSome := by
    decide +kernel
  obtain ⟨user, text, d, huser, htext, hread, hoptions⟩ := descriptorText_keeps_values.2 env hset
  have hnone : env.get? "PGUSER" = none := by
    decide +kernel
  have hname : env.get? "USER" = some "a b" := by
    decide +kernel
  obtain rfl : user = "a b" := by
    simpa [hnone, hname, eq_comm] using huser
  refine ⟨text, d, htext, ?_, hread, ?_⟩
  · have hprinted : env.descriptorText = .ok ("host=localhost port=5432 user='a b' " ++
        "password='it\\'s \\\\ host=evil' dbname='x://y z'") := by
      decide +kernel
    rw [htext] at hprinted
    exact Except.ok.inj hprinted
  · rw [hoptions]
    decide +kernel

end Environment

end PgVitals
