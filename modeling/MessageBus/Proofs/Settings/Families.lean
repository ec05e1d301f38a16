import MessageBus.Settings.Environment
/-!
# Families of variables

Several parts of the program take their settings from one environment, and only the names of the variables keep them
apart. A consumer's variable is named by the consumer and by what it sets, with an underscore between the two, and a
consumer's name may hold underscores itself. So what one name begins another could finish: that none does rests on the
six fields, of which none, with the underscore before it, ends in another (`eq_of_suffix`), nor does the name of a
variable that no consumer has. `families_independent` says what follows: the settings of a consumer depend on its own
variables alone, and the endpoint on none of any consumer's.
-/

namespace MessageBus.Settings

/-! ## The names of the variables -/

/-- What the variables of a consumer set. -/
def consumerFields : List String :=
  ["QUEUE", "MESSAGE_TTL_MS", "MAX_MESSAGE_COUNT", "MAX_CONCURRENCY", "MAX_RETRY_COUNT", "RETRY_DELAY_MS"]

/-- The names of a consumer's variables. -/
def consumerKeys (consumer : String) : List String := consumerFields.map (consumerKey consumer)

/-- The name of a variable of some consumer. -/
def IsConsumerKey (key : String) : Prop := ∃ consumer, key ∈ consumerKeys consumer

/-- The name of a variable of the broker. -/
def IsBrokerKey (key : String) : Prop := ∃ rest, key = "RABBITMQ_" ++ rest

/-- The names of the variables from which the broker's address is put together. -/
def partKeys : List String :=
  ["RABBITMQ_HOST", "RABBITMQ_PORT", "RABBITMQ_USER", "RABBITMQ_PASSWORD", "RABBITMQ_VHOST"]

/-- The name of the variable that holds the size of the pool. -/
def poolKey : String := "MESSAGING_CONNECTION_POOL_SIZE"

theorem eq_of_suffix :
    ∀ f ∈ consumerFields, ∀ g ∈ consumerFields, '_' :: f.toList <:+ '_' :: g.toList → f = g := by
  decide

theorem not_suffix_poolKey : ∀ f ∈ consumerFields, ¬ '_' :: f.toList <:+ poolKey.toList := by
  decide

theorem isBrokerKey_of_mem_partKeys {key : String} (h : key ∈ partKeys) : IsBrokerKey key := by
  simp only [partKeys, List.mem_cons, List.not_mem_nil, or_false] at h
  rcases h with rfl | rfl | rfl | rfl | rfl
  · exact ⟨"HOST", rfl⟩
  · exact ⟨"PORT", rfl⟩
  · exact ⟨"USER", rfl⟩
  · exact ⟨"PASSWORD", rfl⟩
  · exact ⟨"VHOST", rfl⟩

theorem toList_consumerKey (consumer field : String) :
    (consumerKey consumer field).toList =
      "MESSAGING_".toList ++ (normalizedName consumer).toList ++ '_' :: field.toList := by
  simp [consumerKey]

theorem suffix_consumerKey (consumer field : String) : '_' :: field.toList <:+ (consumerKey consumer field).toList :=
  ⟨_, (toList_consumerKey consumer field).symm⟩

/-- A variable tells the name of its consumer, as far as variables tell names apart, and what it sets. -/
theorem consumerKey_inj {a b f g : String} (hf : f ∈ consumerFields) (hg : g ∈ consumerFields) :
    consumerKey a f = consumerKey b g ↔ normalizedName a = normalizedName b ∧ f = g := by
  refine ⟨fun h => ?_, fun ⟨hab, hfg⟩ => by rw [consumerKey, consumerKey, hab, hfg]⟩
  have hends := List.suffix_or_suffix_of_suffix (suffix_consumerKey a f) (h ▸ suffix_consumerKey b g)
  have hfg : f = g := by
    rcases hends with hend | hend
    · exact eq_of_suffix f hf g hg hend
    · exact (eq_of_suffix g hg f hf hend).symm
  subst hfg
  simp only [consumerKey, String.append_left_inj, String.append_right_inj] at h
  exact ⟨h, rfl⟩

theorem not_isBrokerKey_consumerKey (consumer field : String) : ¬IsBrokerKey (consumerKey consumer field) := by
  rintro ⟨rest, h⟩
  have hfirst := congrArg (fun s : String => s.toList.head?) h
  have hconsumer : ("MESSAGING_" : String).toList.head? = some 'M' := rfl
  have hbroker : ("RABBITMQ_" : String).toList.head? = some 'R' := rfl
  simp only [toList_consumerKey, String.toList_append, List.append_assoc, List.head?_append, hconsumer, hbroker,
    Option.some_or] at hfirst
  exact absurd hfirst (by decide)

theorem consumerKey_ne_poolKey {consumer field : String} (h : field ∈ consumerFields) :
    consumerKey consumer field ≠ poolKey := fun heq =>
  not_suffix_poolKey field h (heq ▸ suffix_consumerKey consumer field)

theorem not_isConsumerKey_of_isBrokerKey {key : String} (h : IsBrokerKey key) : ¬IsConsumerKey key := by
  rintro ⟨consumer, hmem⟩
  obtain ⟨field, -, rfl⟩ := List.mem_map.1 hmem
  exact not_isBrokerKey_consumerKey consumer field h

theorem not_isConsumerKey_poolKey : ¬IsConsumerKey poolKey := by
  rintro ⟨consumer, hmem⟩
  obtain ⟨field, hfield, heq⟩ := List.mem_map.1 hmem
  exact consumerKey_ne_poolKey hfield heq

/-- Consumers whose names variables tell apart have no variable in common. -/
theorem not_mem_consumerKeys {a b key : String} (h : normalizedName a ≠ normalizedName b)
    (hkey : key ∈ consumerKeys a) : key ∉ consumerKeys b := by
  intro hkey'
  obtain ⟨f, hf, rfl⟩ := List.mem_map.1 hkey
  obtain ⟨g, hg, heq⟩ := List.mem_map.1 hkey'
  exact h ((consumerKey_inj hg hf).1 heq).1.symm

/-! ## What is read of an environment -/

/-- The environments are alike but for variables of these names. -/
def Environment.AgreeOutside (names : String → Prop) (env env' : Environment) : Prop :=
  ∀ key, ¬names key → env key = env' key

section
variable {env env' : Environment} {key : String}

theorem Environment.natural?_congr (h : env key = env' key) (bound : Nat) :
    env.natural? key bound = env'.natural? key bound := by
  rw [natural?, natural?, h]

theorem Environment.required_congr (h : env key = env' key) : env.required key = env'.required key := by
  rw [required, required, h]

theorem Environment.filled?_congr (h : env key = env' key) : env.filled? key = env'.filled? key := by
  rw [filled?, filled?, h]

/-- The settings of a consumer depend on its six variables alone. -/
theorem Overrides.fromEnvironment_congr {consumer : String} (h : ∀ key ∈ consumerKeys consumer, env key = env' key) :
    fromEnvironment env consumer = fromEnvironment env' consumer := by
  have hfield : ∀ field ∈ consumerFields, env (consumerKey consumer field) = env' (consumerKey consumer field) :=
    fun field hmem => h _ (List.mem_map_of_mem hmem)
  simp only [consumerFields, List.forall_mem_cons] at hfield
  obtain ⟨hqueue, httl, hcount, hconcurrency, hretries, hdelay, -⟩ := hfield
  simp only [fromEnvironment, Environment.filled?_congr hqueue, Environment.natural?_congr httl,
    Environment.natural?_congr hcount, Environment.natural?_congr hconcurrency, Environment.natural?_congr hretries,
    Environment.natural?_congr hdelay]

/-- The parts of the address count only where the whole is missing. -/
theorem addressFrom_congr (hwhole : env "RABBITMQ_URL" = env' "RABBITMQ_URL")
    (hparts : env.filled? "RABBITMQ_URL" = none → ∀ key ∈ partKeys, env key = env' key) :
    addressFrom env = addressFrom env' := by
  rw [addressFrom, addressFrom, ← Environment.filled?_congr hwhole]
  cases hurl : env.filled? "RABBITMQ_URL" with
  | some url => rfl
  | none =>
    have hpart := hparts hurl
    simp only [partKeys, List.forall_mem_cons] at hpart
    obtain ⟨hhost, hport, huser, hpassword, hvhost, -⟩ := hpart
    simp only [Environment.required_congr hhost, Environment.natural?_congr hport, huser, hpassword, hvhost]

theorem Endpoint.fromEnvironment_congr (hwhole : env "RABBITMQ_URL" = env' "RABBITMQ_URL")
    (hparts : env.filled? "RABBITMQ_URL" = none → ∀ key ∈ partKeys, env key = env' key)
    (hpool : env poolKey = env' poolKey) : fromEnvironment env = fromEnvironment env' := by
  rw [fromEnvironment, fromEnvironment, addressFrom_congr hwhole hparts]
  exact congrArg _ (funext fun address => congrArg (· >>= _) (Environment.natural?_congr hpool _))

end

/-- What the environment says about a consumer, be it settings or a flaw, does not depend on the variables of a consumer
whose name variables tell from its own, nor on the variables of the broker or on the one of the pool. What it says about
the endpoint does not depend on the variables of any consumer, nor, where the address is given as a whole, on those from
which it would be put together. -/
theorem families_independent :
    (∀ (a b : String) (env env' : Environment), normalizedName a ≠ normalizedName b →
      env.AgreeOutside (fun key => key ∈ consumerKeys b ∨ IsBrokerKey key ∨ key = poolKey) env' →
        Overrides.fromEnvironment env a = Overrides.fromEnvironment env' a) ∧
    (∀ env env' : Environment, env.AgreeOutside IsConsumerKey env' →
      Endpoint.fromEnvironment env = Endpoint.fromEnvironment env') ∧
    (∀ env env' : Environment, (env.filled? "RABBITMQ_URL").isSome →
      env.AgreeOutside (fun key => IsConsumerKey key ∨ key ∈ partKeys) env' →
        Endpoint.fromEnvironment env = Endpoint.fromEnvironment env') := by
  refine ⟨fun a b env env' hne hagree => ?_, fun env env' hagree => ?_, fun env env' hurl hagree => ?_⟩
  · refine Overrides.fromEnvironment_congr fun key hkey => hagree key ?_
    rintro (hmem | hbroker | hpool)
    · exact not_mem_consumerKeys hne hkey hmem
    · exact not_isConsumerKey_of_isBrokerKey hbroker ⟨a, hkey⟩
    · exact not_isConsumerKey_poolKey ⟨a, hpool ▸ hkey⟩
  · refine Endpoint.fromEnvironment_congr (hagree _ (not_isConsumerKey_of_isBrokerKey ⟨"URL", rfl⟩))
      (fun _ key hkey => ?_) (hagree _ not_isConsumerKey_poolKey)
    exact hagree key (not_isConsumerKey_of_isBrokerKey (isBrokerKey_of_mem_partKeys hkey))
  · refine Endpoint.fromEnvironment_congr (hagree _ ?_) (fun hnone => ?_) (hagree _ ?_)
    · rintro (hconsumer | hpart)
      · exact not_isConsumerKey_of_isBrokerKey ⟨"URL", rfl⟩ hconsumer
      · exact absurd hpart (by decide)
    · exact absurd hurl (by rw [hnone]; exact nofun)
    · rintro (hconsumer | hpart)
      · exact not_isConsumerKey_poolKey hconsumer
      · exact absurd hpart (by decide)

/-- The environment with a variable set. -/
def Environment.set (env : Environment) (name value : String) : Environment :=
  fun key => if key = name then some value else env key

theorem Environment.AgreeOutside.refl (names : String → Prop) (env : Environment) : env.AgreeOutside names env :=
  fun _ _ => rfl

/-- To set a variable that does not count changes nothing that does. -/
theorem Environment.AgreeOutside.set {names : String → Prop} {env env' : Environment} (h : env.AgreeOutside names env')
    {name : String} (hname : names name) (value : String) : env.AgreeOutside names (env'.set name value) := by
  intro key hkey
  have hne : key ≠ name := fun heq => hkey (heq ▸ hname)
  rw [Environment.set, if_neg hne]
  exact h key hkey

/-- The concurrency of orders is no variable of the consumer whose name goes on with a word of that very field. What is
set for that one and for the broker changes nothing about orders, and nothing about the endpoint, as its address is
given as a whole. -/
theorem orders_read_alone :
    let env := ((Environment.ofList []).set "MESSAGING_ORDERS_MAX_CONCURRENCY" "3").set "RABBITMQ_URL" "amqp://broker"
    let env' := env.set "MESSAGING_ORDERS_MAX_MAX_CONCURRENCY" "many"
    let env'' := env'.set "RABBITMQ_PORT" "many"
    normalizedName "orders" ≠ normalizedName "orders-max" ∧
      Overrides.fromEnvironment env "orders" = Overrides.fromEnvironment env'' "orders" ∧
      Overrides.fromEnvironment env'' "orders" = .ok ⟨none, none, none, some 3, none, none⟩ ∧
      Overrides.fromEnvironment env'' "orders-max" =
        .error (.badVariable "MESSAGING_ORDERS_MAX_MAX_CONCURRENCY" .invalidDigit) ∧
      Endpoint.fromEnvironment env = Endpoint.fromEnvironment env' ∧
      Endpoint.fromEnvironment env' = Endpoint.fromEnvironment env'' ∧
      Endpoint.fromEnvironment env'' = .ok ⟨"amqp://broker", none⟩ := by
  intro env env' env''
  obtain ⟨hconsumer, hendpoint, hwhole⟩ := families_independent
  have hne : normalizedName "orders" ≠ normalizedName "orders-max" := by decide
  have hlimit : "MESSAGING_ORDERS_MAX_MAX_CONCURRENCY" ∈ consumerKeys "orders-max" := by decide
  refine ⟨hne, hconsumer "orders" "orders-max" env env'' hne ?_, rfl, rfl, hendpoint env env' ?_,
    hwhole env' env'' rfl ?_, rfl⟩
  · exact ((Environment.AgreeOutside.refl _ env).set (.inl hlimit) _).set (.inr (.inl ⟨"PORT", rfl⟩)) _
  · exact (Environment.AgreeOutside.refl _ env).set ⟨"orders-max", hlimit⟩ _
  · exact (Environment.AgreeOutside.refl _ env').set (.inr (by decide)) _

end MessageBus.Settings
