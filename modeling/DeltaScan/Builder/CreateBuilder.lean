import DeltaScan.Builder.ConnectionString

/-!
# `CreateBuilder`: the engine builder for a table path

A path that starts with none of the object-store schemes gets a builder with no options. An
object-store path is split into the bucket, the path in the bucket and the secret type, by one
branch per scheme, each with its own offsets; `r2://`, `gs://` and `gcs://` are handed to the
kernel as `s3://` paths. The secret DuckDB's secret manager finds for the path and the secret
type then gives the builder its options: the S3 ones for `s3`, `gcs` and `r2`, the Azure ones for
`azure`, which end with the bucket as `container_name`.

The kernel's `get_engine_builder` and the secret manager's `LookupSecret` are parameters. A
secret is read through `TryGetSecretKey`, into strings that start empty; `url_style`, which the
source reads and never uses, is left out.

Whatever branch runs, the builder gets each option at most once, an S3 endpoint always with a
scheme and `allow_http` exactly for an `http://` one, and every exception names its cause.
-/

namespace DeltaScan

/-! ## Secrets, builders and exceptions -/

/-- A DuckDB `KeyValueSecret`, by what `CreateBuilder` reads of it: the provider, the string
values by key, and `use_ssl` where the secret sets it. -/
structure KeyValueSecret where
  provider : Bytes
  values : List (Bytes × Bytes)
  useSsl : Option Bool
  deriving DecidableEq, Repr

/-- `TryGetSecretKey(key, value)` into a string that starts empty. -/
def KeyValueSecret.get (secret : KeyValueSecret) (key : Bytes) : Bytes :=
  (secret.values.lookup key).getD []

/-- The kernel's `EngineBuilder`: the path it was made for and the options set on it, in order. -/
structure EngineBuilder where
  path : Bytes
  options : List (Bytes × Bytes)
  deriving DecidableEq, Repr

/-- The exceptions `CreateBuilder` raises. -/
inductive BuilderException where
  | io (message : Bytes)
  | notImplemented (message : Bytes)
  | invalidInput (message : Bytes)
  /-- `KernelUtils::UnpackResult` on a kernel error: the context and the kernel's message. -/
  | kernel (context message : Bytes)
  deriving DecidableEq, Repr

/-- `ffi::get_engine_builder` for a path, through `UnpackResult`. -/
def getBuilder (getEngineBuilder : Bytes → Except Bytes Unit) (path : Bytes) :
    Except BuilderException EngineBuilder :=
  match getEngineBuilder path with
  | .ok () => .ok ⟨path, []⟩
  | .error e => .error (.kernel (bytes "get_engine_interface_builder for path " ++ path) e)

/-! ## The split of an object-store URL -/

/-- The schemes `CreateBuilder` treats as object stores. -/
def objectStorePrefixes : List Bytes :=
  [bytes "s3://", bytes "gcs://", bytes "gs://", bytes "r2://", bytes "azure://", bytes "az://",
    bytes "abfs://", bytes "abfss://"]

/-- One scheme's branch of the split: `find('/', searchFrom)`, the invalid-url exception, and
the container from `start` up to the `/`. -/
def splitAt (path : Bytes) (searchFrom start : Nat) (scheme secretType : Bytes) :
    Except BuilderException (Bytes × Bytes × Bytes) :=
  match findFrom path 47 searchFrom with
  | none => .error (.io (bytes "Invalid " ++ scheme ++ bytes " url passed to delta scan: " ++ path))
  | some endOfContainer =>
    .ok (substr path start (idxSub endOfContainer start), path.drop endOfContainer, secretType)

/-- The bucket, the path in the bucket and the secret type of an object-store path. -/
def splitUrl (path : Bytes) : Except BuilderException (Bytes × Bytes × Bytes) :=
  if (bytes "s3://").isPrefixOf path then splitAt path 5 5 (bytes "s3") (bytes "s3")
  else if (bytes "gcs://").isPrefixOf path then splitAt path 6 6 (bytes "gcs") (bytes "gcs")
  else if (bytes "gs://").isPrefixOf path then splitAt path 5 5 (bytes "gcs") (bytes "gcs")
  else if (bytes "r2://").isPrefixOf path then splitAt path 5 5 (bytes "gcs") (bytes "r2")
  else if (bytes "azure://").isPrefixOf path || (bytes "abfss://").isPrefixOf path then
    splitAt path 8 8 (bytes "azure") (bytes "azure")
  else if (bytes "az://").isPrefixOf path then splitAt path 5 5 (bytes "azure") (bytes "azure")
  else if (bytes "abfs://").isPrefixOf path then splitAt path 7 8 (bytes "azure") (bytes "azure")
  else .ok ([], [], [])

/-- `cleaned_path`: the path handed to the kernel. -/
def cleanPath (path : Bytes) : Bytes :=
  if (bytes "r2://").isPrefixOf path || (bytes "gs://").isPrefixOf path then
    bytes "s3://" ++ path.drop 5
  else if (bytes "gcs://").isPrefixOf path then bytes "s3://" ++ path.drop 6
  else path

/-- Past its scheme, each branch of the split searches for the `/` from the end of the scheme and
reads the container from there, except `abfs://`, which reads it from one byte further on. -/
theorem splitUrl_prefix {P : Bytes} (hP : P ∈ objectStorePrefixes) (rest : Bytes) :
    ∃ scheme secretType, splitUrl (P ++ rest) =
      splitAt (P ++ rest) P.length (if P = bytes "abfs://" then P.length + 1 else P.length)
        scheme secretType := by
  simp only [objectStorePrefixes, List.mem_cons, List.not_mem_nil, or_false] at hP
  rcases hP with rfl | rfl | rfl | rfl | rfl | rfl | rfl | rfl <;>
  · apply Exists.intro; apply Exists.intro
    simp (disch := decide) only [splitUrl, isPrefixOf_self_append, isPrefixOf_append_eq_false,
      Bool.false_or, Bool.or_false, Bool.or_true, Bool.false_eq_true, if_true, if_false]
    rfl

/-- `r2://`, `gs://` and `gcs://` paths go to the kernel as `s3://` paths; the others unchanged. -/
theorem cleanPath_prefix {P : Bytes} (hP : P ∈ objectStorePrefixes) (rest : Bytes) :
    cleanPath (P ++ rest) =
      if P ∈ [bytes "r2://", bytes "gs://", bytes "gcs://"] then bytes "s3://" ++ rest
      else P ++ rest := by
  simp only [objectStorePrefixes, List.mem_cons, List.not_mem_nil, or_false] at hP
  rcases hP with rfl | rfl | rfl | rfl | rfl | rfl | rfl | rfl <;>
  · first | rw [if_pos (by decide)] | rw [if_neg (by decide)]
    simp (disch := decide) only [cleanPath, isPrefixOf_self_append, isPrefixOf_append_eq_false,
      Bool.false_or, Bool.or_false, Bool.or_true, Bool.false_eq_true, if_true, if_false,
      List.drop_left']

/-- Past a container with no `/`, `find` stops at the `/` that begins the path in the bucket. -/
theorem findFrom_container {P c : Bytes} (hc : 47 ∉ c) (q : Bytes) :
    findFrom (P ++ (c ++ 47 :: q)) 47 P.length = some (c.length + P.length) := by
  rw [findFrom_append, findIdx?_beq_append_cons hc]
  rfl

theorem drop_container (P c q : Bytes) : (P ++ (c ++ q)).drop (c.length + P.length) = q := by
  rw [Nat.add_comm, List.drop_append, List.drop_left]

/-- A branch that reads the container from where it searches gets the container and the path. -/
theorem splitAt_container {P c : Bytes} (hc : 47 ∉ c) (q : Bytes) (hq : q.head? = some 47)
    (hsize : (P ++ (c ++ q)).length < 2 ^ 64) (scheme secretType : Bytes) :
    splitAt (P ++ (c ++ q)) P.length P.length scheme secretType = .ok (c, q, secretType) := by
  obtain ⟨q, rfl⟩ := List.head?_eq_some_iff.1 hq
  simp only [List.length_append, List.length_cons] at hsize
  simp only [splitAt, findFrom_container hc, drop_container, substr, List.drop_left,
    idxSub_of_le (Nat.le_add_left _ _) (by omega : c.length + P.length < 2 ^ 64),
    Nat.add_sub_cancel, List.take_left]

/-- A branch that reads the container from one byte past where it searches loses the container's
first byte; with an empty container, `end - 8` wraps and the bucket is the path without its `/`. -/
theorem splitAt_container_abfs {P c : Bytes} (hc : 47 ∉ c) (q : Bytes) (hq : q.head? = some 47)
    (hsize : (P ++ (c ++ q)).length < 2 ^ 64) (scheme secretType : Bytes) :
    splitAt (P ++ (c ++ q)) P.length (P.length + 1) scheme secretType =
      .ok (if c = [] then q.drop 1 else c.drop 1, q, secretType) := by
  obtain ⟨q, rfl⟩ := List.head?_eq_some_iff.1 hq
  simp only [splitAt, findFrom_container hc, drop_container, substr]
  cases c with
  | nil =>
    simp only [List.nil_append, List.length_append, List.length_cons] at hsize
    have hwrap : idxSub P.length (P.length + 1) = 2 ^ 64 - 1 :=
      idxSub_pred (b := P.length + 1) (Nat.succ_pos _) (by omega)
    simp only [List.length_nil, Nat.zero_add, hwrap, List.nil_append, List.drop_append,
      List.drop_one, List.tail_cons, if_pos,
      List.take_of_length_le (by omega : q.length ≤ 2 ^ 64 - 1)]
  | cons a c =>
    simp only [List.cons_append, List.length_append, List.length_cons] at hsize
    have hlen : idxSub (c.length + 1 + P.length) (P.length + 1) = c.length := by
      rw [idxSub_of_le (by omega) (by omega)]
      omega
    simp only [List.length_cons, hlen, List.cons_append, List.drop_append, List.drop_one,
      List.tail_cons, List.take_left, List.cons_ne_nil, if_false]

/-- The split raises the invalid-url exception exactly when no `/` follows the scheme. -/
theorem splitAt_io_iff (P rest : Bytes) (start : Nat) (scheme secretType : Bytes) :
    (∃ m, splitAt (P ++ rest) P.length start scheme secretType = .error (.io m)) ↔ 47 ∉ rest := by
  rw [splitAt, findFrom_append]
  cases h : rest.findIdx? (· == 47) with
  | none => simpa using findIdx?_beq_eq_none_iff.1 h
  | some i =>
    simp only [Option.map_some', exists_false, false_iff, not_not, reduceCtorEq]
    exact Classical.not_not.1 fun hn => by rw [findIdx?_beq_eq_none_iff.2 hn] at h; cases h

theorem getBuilder_ne_io (getEngineBuilder : Bytes → Except Bytes Unit) (path m : Bytes) :
    getBuilder getEngineBuilder path ≠ .error (.io m) := by
  unfold getBuilder
  split <;> simp

/-! ## Options -/

/-- `if (!value.empty()) set_builder_option(builder, key, value)`. -/
def optionIfSet (key value : Bytes) : List (Bytes × Bytes) :=
  if value.isEmpty then [] else [(key, value)]

/-- The options of an `s3`, `gcs` or `r2` secret. -/
def s3Options (path : Bytes) (secret : KeyValueSecret) : List (Bytes × Bytes) :=
  let keyId := secret.get (bytes "key_id")
  let secretKey := secret.get (bytes "secret")
  let endpoint := secret.get (bytes "endpoint")
  let endpointOptions :=
    if !endpoint.isEmpty && endpoint != bytes "s3.amazonaws.com" then
      let endpoint :=
        if !(bytes "https://").isPrefixOf endpoint && !(bytes "http://").isPrefixOf endpoint then
          (if secret.useSsl.getD true then bytes "https://" else bytes "http://") ++ endpoint
        else endpoint
      (if (bytes "http://").isPrefixOf endpoint then [(bytes "allow_http", bytes "true")]
        else []) ++ [(bytes "aws_endpoint", endpoint)]
    else if (bytes "gs://").isPrefixOf path || (bytes "gcs://").isPrefixOf path then
      [(bytes "aws_endpoint", bytes "https://storage.googleapis.com")]
    else []
  (if keyId.isEmpty && secretKey.isEmpty then [(bytes "skip_signature", bytes "true")] else []) ++
    optionIfSet (bytes "aws_access_key_id") keyId ++
    optionIfSet (bytes "aws_secret_access_key") secretKey ++
    optionIfSet (bytes "aws_session_token") (secret.get (bytes "session_token")) ++
    endpointOptions ++ [(bytes "aws_region", secret.get (bytes "region"))]

/-- Authentication option 2, a connection string: the options it sets, and the account name and
endpoint it leaves. The account name is the connection string's `AccountName`, whatever the
secret's `account_name`. -/
def connectionStringOptions (connectionString endpoint : Bytes) :
    List (Bytes × Bytes) × Bytes × Bytes :=
  let accountKey := parseFromConnectionString connectionString (bytes "AccountKey")
  let accountName := parseFromConnectionString connectionString (bytes "AccountName")
  if !accountName.isEmpty && !accountKey.isEmpty then
    ([(bytes "account_key", accountKey)], accountName, endpoint)
  else
    let endpoint := parseFromConnectionString connectionString (bytes "BlobEndpoint")
    let accountName :=
      if accountName.isEmpty then parseAccountNameFromEndpoint endpoint else accountName
    (optionIfSet (bytes "sas_token")
        (parseFromConnectionString connectionString (bytes "SharedAccessSignature")),
      accountName, endpoint)

/-- With no `AccountName` read from the connection string and a `BlobEndpoint` read as
`https://a.rest`, with no `.` in `a`, the account name the connection string leaves is `a`. -/
theorem connectionStringOptions_accountName {connectionString endpoint a : Bytes} (rest : Bytes)
    (hname : parseFromConnectionString connectionString (bytes "AccountName") = [])
    (hendpoint : parseFromConnectionString connectionString (bytes "BlobEndpoint") =
      bytes "https://" ++ (a ++ 46 :: rest)) (ha : 46 ∉ a) :
    (connectionStringOptions connectionString endpoint).2.1 = a := by
  simp only [connectionStringOptions, hname, hendpoint, List.isEmpty_nil, Bool.not_true,
    Bool.false_and, if_true, Bool.false_eq_true, if_false]
  exact parseAccountNameFromEndpoint_https ha rest

/-- The authentication options of an Azure secret, by its provider, with the account name and
the endpoint they leave. -/
def azureAuthentication (secret : KeyValueSecret) :
    Except BuilderException (List (Bytes × Bytes) × Bytes × Bytes) :=
  let connectionString := secret.get (bytes "connection_string")
  let accountName := secret.get (bytes "account_name")
  let endpoint := secret.get (bytes "endpoint")
  if secret.provider == bytes "access_token" then
    let accessToken := secret.get (bytes "access_token")
    if accessToken.isEmpty then
      .error (.invalidInput (bytes "No access_token value not found in secret provider!"))
    else .ok ([(bytes "bearer_token", accessToken)], accountName, endpoint)
  else if secret.provider == bytes "credential_chain" then
    .ok (if containsBytes (secret.get (bytes "chain")) (bytes "cli") then
        [(bytes "use_azure_cli", bytes "true")] else [], accountName, endpoint)
  else if !connectionString.isEmpty && connectionString != bytes "NULL" then
    .ok (connectionStringOptions connectionString endpoint)
  else if secret.provider == bytes "service_principal" then
    .ok (optionIfSet (bytes "azure_client_id") (secret.get (bytes "client_id")) ++
        optionIfSet (bytes "azure_client_secret") (secret.get (bytes "client_secret")) ++
        optionIfSet (bytes "azure_tenant_id") (secret.get (bytes "tenant_id")),
      accountName, endpoint)
  else .ok ([(bytes "azure_skip_signature", bytes "true")], accountName, endpoint)

/-- The options of an `azure` secret, ending with the bucket as `container_name`. -/
def azureOptions (secret : KeyValueSecret) (bucket : Bytes) :
    Except BuilderException (List (Bytes × Bytes)) :=
  let connectionString := secret.get (bytes "connection_string")
  let fabric :=
    let accountName := secret.get (bytes "account_name")
    if !accountName.isEmpty && accountName == bytes "onelake" then
      [(bytes "use_fabric_endpoint", bytes "true")] else []
  match azureAuthentication secret with
  | .error e => .error e
  | .ok (authentication, accountName, endpoint) =>
    .ok (fabric ++ authentication ++
      (if accountName == bytes "devstoreaccount1" ||
          containsBytes connectionString (bytes "devstoreaccount1") then
        [(bytes "use_emulator", bytes "true")] else []) ++
      optionIfSet (bytes "account_name") accountName ++
      optionIfSet (bytes "azure_endpoint") endpoint ++ [(bytes "container_name", bucket)])

/-- What `CreateBuilder` does with the builder of an object-store path: with no secret, the
exception for the schemes that need an endpoint; with one, the secret type's options. -/
def configureBuilder (path bucket secretType : Bytes) (builder : EngineBuilder) :
    Option KeyValueSecret → Except BuilderException EngineBuilder
  | none =>
    if (bytes "r2://").isPrefixOf path || (bytes "gs://").isPrefixOf path ||
        (bytes "gcs://").isPrefixOf path then
      .error (.notImplemented (bytes ("Can not scan a gcs:// gs:// or r2:// url without a secret " ++
        "providing its endpoint currently. Please create an R2 or GCS secret containing the " ++
        "credentials for this endpoint and try again.")))
    else .ok builder
  | some secret =>
    if secretType == bytes "s3" || secretType == bytes "gcs" || secretType == bytes "r2" then
      .ok { builder with options := builder.options ++ s3Options path secret }
    else if secretType == bytes "azure" then
      (azureOptions secret bucket).map fun options =>
        { builder with options := builder.options ++ options }
    else .ok builder

/-- `CreateBuilder(context, path)`, with the kernel's `get_engine_builder` and the secret
manager's `LookupSecret(path, secret_type)`. -/
def createBuilder (getEngineBuilder : Bytes → Except Bytes Unit)
    (lookupSecret : Bytes → Bytes → Option KeyValueSecret) (path : Bytes) :
    Except BuilderException EngineBuilder :=
  if objectStorePrefixes.any (·.isPrefixOf path) then do
    let (bucket, _, secretType) ← splitUrl path
    let builder ← getBuilder getEngineBuilder (cleanPath path)
    configureBuilder path bucket secretType builder (lookupSecret path secretType)
  else getBuilder getEngineBuilder path

/-! ## What `CreateBuilder` derives from an object-store path -/

/-- The one exception of the Azure options: an `access_token` secret without a token. -/
theorem azureAuthentication_error {secret : KeyValueSecret} {e : BuilderException}
    (h : azureAuthentication secret = .error e) :
    e = .invalidInput (bytes "No access_token value not found in secret provider!") := by
  simp only [azureAuthentication] at h
  split_ifs at h
  cases h
  rfl

theorem azureOptions_error {secret : KeyValueSecret} {bucket : Bytes} {e : BuilderException}
    (h : azureOptions secret bucket = .error e) :
    e = .invalidInput (bytes "No access_token value not found in secret provider!") := by
  simp only [azureOptions] at h
  split at h
  · cases h; exact azureAuthentication_error ‹_›
  · cases h

/-- The Azure options end with the bucket as `container_name`. -/
theorem azureOptions_container_name {secret : KeyValueSecret} {bucket : Bytes}
    {options : List (Bytes × Bytes)} (h : azureOptions secret bucket = .ok options) :
    options.getLast? = some (bytes "container_name", bucket) := by
  simp only [azureOptions] at h
  split at h
  · cases h
  · cases h
    exact List.getLast?_concat _

/-- Once the builder exists, `CreateBuilder` raises only a `NotImplementedException` or an
`InvalidInputException`. -/
theorem configureBuilder_error {path bucket secretType : Bytes} {builder : EngineBuilder}
    {secret : Option KeyValueSecret} {e : BuilderException}
    (h : configureBuilder path bucket secretType builder secret = .error e) :
    ∃ m, e = .notImplemented m ∨ e = .invalidInput m := by
  cases secret with
  | none =>
    simp only [configureBuilder] at h
    split_ifs at h
    cases h
    exact ⟨_, .inl rfl⟩
  | some secret =>
    simp only [configureBuilder] at h
    split_ifs at h
    cases hopt : azureOptions secret bucket with
    | error e' =>
      rw [hopt] at h
      cases h
      exact ⟨_, .inr (azureOptions_error hopt)⟩
    | ok options => rw [hopt] at h; cases h

/-- On an object-store path, `CreateBuilder` splits the path, asks the kernel for a builder of the
cleaned path and configures it with the bucket. -/
theorem createBuilder_objectStore {P : Bytes} (hP : P ∈ objectStorePrefixes) (rest : Bytes)
    {bucket pathInBucket secretType : Bytes}
    (hsplit : splitUrl (P ++ rest) = .ok (bucket, pathInBucket, secretType))
    (getEngineBuilder : Bytes → Except Bytes Unit)
    (lookupSecret : Bytes → Bytes → Option KeyValueSecret) :
    createBuilder getEngineBuilder lookupSecret (P ++ rest) =
      (getBuilder getEngineBuilder (cleanPath (P ++ rest))).bind fun builder =>
        configureBuilder (P ++ rest) bucket secretType builder
          (lookupSecret (P ++ rest) secretType) := by
  rw [createBuilder, if_pos (List.any_eq_true.2 ⟨P, hP, isPrefixOf_self_append P rest⟩), hsplit]
  rfl

/-- `CreateBuilder` raises an `IOException` on an object-store path exactly when no `/` follows
the scheme. -/
theorem createBuilder_io_iff {P : Bytes} (hP : P ∈ objectStorePrefixes)
    (getEngineBuilder : Bytes → Except Bytes Unit)
    (lookupSecret : Bytes → Bytes → Option KeyValueSecret) (rest : Bytes) :
    (∃ m, createBuilder getEngineBuilder lookupSecret (P ++ rest) = .error (.io m)) ↔
      47 ∉ rest := by
  obtain ⟨scheme, secretType, hsplit⟩ := splitUrl_prefix hP rest
  rw [← splitAt_io_iff P rest _ scheme secretType, ← hsplit]
  cases h : splitUrl (P ++ rest) with
  | error e =>
    rw [createBuilder, if_pos (List.any_eq_true.2 ⟨P, hP, isPrefixOf_self_append P rest⟩), h,
      except_error_bind]
    simp only [Except.error.injEq]
  | ok r =>
    obtain ⟨bucket, pathInBucket, secretType⟩ := r
    rw [createBuilder_objectStore hP rest h]
    simp only [reduceCtorEq, exists_false, iff_false, not_exists]
    intro m hm
    cases hb : getBuilder getEngineBuilder (cleanPath (P ++ rest)) with
    | error e =>
      rw [hb] at hm
      exact getBuilder_ne_io _ _ m (hb.trans hm)
    | ok builder =>
      rw [hb] at hm
      obtain ⟨m', h' | h'⟩ := configureBuilder_error hm <;> cases h'

/-- Why the Azure authentication fails: an `access_token` secret without a token. -/
theorem azureAuthentication_error_cause {secret : KeyValueSecret} {e : BuilderException}
    (h : azureAuthentication secret = .error e) :
    secret.provider = bytes "access_token" ∧ secret.get (bytes "access_token") = [] := by
  simp only [azureAuthentication] at h
  split_ifs at h with hprovider htoken
  exact ⟨beq_iff_eq.1 hprovider, List.isEmpty_iff.1 htoken⟩

/-- Why the configuration of a builder fails: no secret for a scheme that needs an endpoint, or an
Azure secret with an empty access token. -/
theorem configureBuilder_error_cause {path bucket secretType : Bytes} {builder : EngineBuilder}
    {secret : Option KeyValueSecret} {e : BuilderException}
    (h : configureBuilder path bucket secretType builder secret = .error e) :
    (∃ m, e = .notImplemented m ∧ secret = none ∧
      ((bytes "r2://").isPrefixOf path || (bytes "gs://").isPrefixOf path ||
        (bytes "gcs://").isPrefixOf path) = true) ∨
    (∃ m, e = .invalidInput m ∧ secretType = bytes "azure" ∧ ∃ s, secret = some s ∧
      s.provider = bytes "access_token" ∧ s.get (bytes "access_token") = []) := by
  cases secret with
  | none =>
    simp only [configureBuilder] at h
    split_ifs at h with hscheme
    cases h
    exact .inl ⟨_, rfl, rfl, hscheme⟩
  | some secret =>
    simp only [configureBuilder] at h
    split_ifs at h with hs3 hazure
    cases hopt : azureOptions secret bucket with
    | ok options => rw [hopt] at h; cases h
    | error e' =>
      rw [hopt] at h
      cases h
      simp only [azureOptions] at hopt
      split at hopt
      · rename_i hauth
        cases hopt
        exact .inr ⟨_, azureAuthentication_error hauth, beq_iff_eq.1 hazure, secret, rfl,
          azureAuthentication_error_cause hauth⟩
      · cases hopt

/-- A path of none of the object-store schemes goes to the kernel as it is. -/
theorem cleanPath_of_not_objectStore {path : Bytes}
    (h : ¬(objectStorePrefixes.any fun P => P.isPrefixOf path) = true) : cleanPath path = path := by
  simp only [objectStorePrefixes, List.any_cons, List.any_nil, Bool.or_false, Bool.or_eq_true,
    not_or, Bool.not_eq_true] at h
  simp [cleanPath, h]

theorem getBuilder_error {getEngineBuilder : Bytes → Except Bytes Unit} {path : Bytes}
    {e : BuilderException} (h : getBuilder getEngineBuilder path = .error e) :
    ∃ context m, e = .kernel context m ∧ getEngineBuilder path = .error m := by
  unfold getBuilder at h
  split at h
  · cases h
  · cases h
    exact ⟨_, _, rfl, ‹_›⟩

theorem splitUrl_error {P : Bytes} (hP : P ∈ objectStorePrefixes) {rest : Bytes}
    {e : BuilderException} (h : splitUrl (P ++ rest) = .error e) : ∃ m, e = .io m ∧ 47 ∉ rest := by
  obtain ⟨scheme, secretType, hsplit⟩ := splitUrl_prefix hP rest
  rw [hsplit] at h
  have hio : ∃ m, e = .io m := by
    unfold splitAt at h
    split at h
    · cases h
      exact ⟨_, rfl⟩
    · cases h
  obtain ⟨m, rfl⟩ := hio
  exact ⟨m, rfl, (splitAt_io_iff P rest _ scheme secretType).1 ⟨m, h⟩⟩

/-- `CreateBuilder` raises no exception without its cause: the invalid-url `IOException` on an
object-store path with no `/` after its scheme; the kernel's error for the path it hands the
kernel; the `NotImplementedException` on an `r2://`, `gs://` or `gcs://` path for whose secret
type, as the URL split gives it, the secret manager finds no secret; or the
`InvalidInputException` on an Azure path whose secret has the `access_token` provider and no
token. -/
theorem createBuilder_error_cause {getEngineBuilder : Bytes → Except Bytes Unit}
    {lookupSecret : Bytes → Bytes → Option KeyValueSecret} {path : Bytes} {e : BuilderException}
    (h : createBuilder getEngineBuilder lookupSecret path = .error e) :
    (∃ m, e = .io m ∧ ∃ P ∈ objectStorePrefixes, ∃ rest, path = P ++ rest ∧ 47 ∉ rest) ∨
    (∃ context m, e = .kernel context m ∧ getEngineBuilder (cleanPath path) = .error m) ∨
    (∃ m, e = .notImplemented m ∧
      (∃ bucket pathInBucket secretType,
        splitUrl path = .ok (bucket, pathInBucket, secretType) ∧ lookupSecret path secretType = none) ∧
      ((bytes "r2://").isPrefixOf path || (bytes "gs://").isPrefixOf path ||
        (bytes "gcs://").isPrefixOf path) = true) ∨
    (∃ m, e = .invalidInput m ∧
      (∃ bucket pathInBucket, splitUrl path = .ok (bucket, pathInBucket, bytes "azure")) ∧
      ∃ s, lookupSecret path (bytes "azure") = some s ∧
        s.provider = bytes "access_token" ∧ s.get (bytes "access_token") = []) := by
  unfold createBuilder at h
  split_ifs at h with hobj
  · obtain ⟨P, hP, hpre⟩ := List.any_eq_true.1 hobj
    obtain ⟨rest, rfl⟩ := List.isPrefixOf_iff_prefix.1 hpre
    cases hs : splitUrl (P ++ rest) with
    | error e' =>
      rw [hs, except_error_bind] at h
      cases h
      obtain ⟨m, rfl, hslash⟩ := splitUrl_error hP hs
      exact .inl ⟨m, rfl, P, hP, rest, rfl, hslash⟩
    | ok r =>
      obtain ⟨bucket, pathInBucket, secretType⟩ := r
      cases hb : getBuilder getEngineBuilder (cleanPath (P ++ rest)) with
      | error e' =>
        simp only [hs, hb, except_ok_bind, except_error_bind] at h
        cases h
        exact .inr (.inl (getBuilder_error hb))
      | ok b =>
        simp only [hs, hb, except_ok_bind] at h
        rcases configureBuilder_error_cause h with ⟨m, rfl, hnone, hscheme⟩ |
          ⟨m, rfl, rfl, s, hsome, hcause⟩
        · exact .inr (.inr (.inl ⟨m, rfl, ⟨bucket, pathInBucket, secretType, rfl, hnone⟩, hscheme⟩))
        · exact .inr (.inr (.inr ⟨m, rfl, ⟨bucket, pathInBucket, rfl⟩, s, hsome, hcause⟩))
  · rw [← cleanPath_of_not_objectStore hobj] at h
    exact .inr (.inl (getBuilder_error h))

theorem createBuilder_error_cause_sample :
    let e := BuilderException.invalidInput (bytes "No access_token value not found in secret provider!")
    let lookupSecret : Bytes → Bytes → Option KeyValueSecret :=
      fun _ _ => some ⟨bytes "access_token", [], none⟩
    createBuilder (fun _ => .ok ()) lookupSecret (bytes "az://c/t") = .error e ∧
      ((∃ m, e = .io m ∧ ∃ P ∈ objectStorePrefixes, ∃ rest, bytes "az://c/t" = P ++ rest ∧ 47 ∉ rest) ∨
      (∃ context m, e = .kernel context m ∧
        (fun _ => .ok () : Bytes → Except Bytes Unit) (cleanPath (bytes "az://c/t")) = .error m) ∨
      (∃ m, e = .notImplemented m ∧
        (∃ bucket pathInBucket secretType,
          splitUrl (bytes "az://c/t") = .ok (bucket, pathInBucket, secretType) ∧
            lookupSecret (bytes "az://c/t") secretType = none) ∧
        ((bytes "r2://").isPrefixOf (bytes "az://c/t") || (bytes "gs://").isPrefixOf (bytes "az://c/t") ||
          (bytes "gcs://").isPrefixOf (bytes "az://c/t")) = true) ∨
      (∃ m, e = .invalidInput m ∧
        (∃ bucket pathInBucket, splitUrl (bytes "az://c/t") = .ok (bucket, pathInBucket, bytes "azure")) ∧
        ∃ s, lookupSecret (bytes "az://c/t") (bytes "azure") = some s ∧
          s.provider = bytes "access_token" ∧ s.get (bytes "access_token") = [])) :=
  have h : createBuilder (fun _ => .ok ()) (fun _ _ => some ⟨bytes "access_token", [], none⟩)
      (bytes "az://c/t") =
      .error (.invalidInput (bytes "No access_token value not found in secret provider!")) := rfl
  ⟨h, createBuilder_error_cause h⟩

/-- `CreateBuilder` on an object-store path `P ++ c ++ q`, with a container `c` without `/` and a
path `q` that starts with `/`: the split gives the path `q` in the bucket, and the bucket `c`
for every scheme but `abfs://`, where it drops the container's first byte (or, for an empty
container, is `q` without its `/`). The kernel gets the path with `r2://`, `gs://` and `gcs://`
replaced by `s3://`, and the builder is then configured with the bucket, which the Azure options
set as `container_name`. On any path with the scheme `P`, the invalid-url `IOException` is raised
exactly when no `/` follows the scheme. -/
theorem createBuilder_splits_object_store_url {P : Bytes} (hP : P ∈ objectStorePrefixes)
    (c q : Bytes) (hc : 47 ∉ c) (hq : q.head? = some 47)
    (hsize : (P ++ c ++ q).length < 2 ^ 64) :
    (∃ bucket secretType,
      bucket = (if P = bytes "abfs://" then if c = [] then q.drop 1 else c.drop 1 else c) ∧
      splitUrl (P ++ c ++ q) = .ok (bucket, q, secretType) ∧
      ∀ getEngineBuilder lookupSecret,
        createBuilder getEngineBuilder lookupSecret (P ++ c ++ q) =
          (getBuilder getEngineBuilder
              (if P ∈ [bytes "r2://", bytes "gs://", bytes "gcs://"] then bytes "s3://" ++ c ++ q
                else P ++ c ++ q)).bind fun builder =>
            configureBuilder (P ++ c ++ q) bucket secretType builder
              (lookupSecret (P ++ c ++ q) secretType)) ∧
    ∀ getEngineBuilder lookupSecret (rest : Bytes),
      (∃ m, createBuilder getEngineBuilder lookupSecret (P ++ rest) = .error (.io m)) ↔
        47 ∉ rest := by
  refine ⟨?_, createBuilder_io_iff hP⟩
  obtain ⟨scheme, secretType, hsplit⟩ := splitUrl_prefix hP (c ++ q)
  simp only [List.append_assoc] at hsize ⊢
  have hbucket : splitUrl (P ++ (c ++ q)) =
      .ok (if P = bytes "abfs://" then if c = [] then q.drop 1 else c.drop 1 else c, q,
        secretType) := by
    rw [hsplit]
    by_cases habfs : P = bytes "abfs://"
    · rw [if_pos habfs, if_pos habfs]
      exact splitAt_container_abfs hc q hq hsize scheme secretType
    · rw [if_neg habfs, if_neg habfs]
      exact splitAt_container hc q hq hsize scheme secretType
  refine ⟨_, secretType, rfl, hbucket, fun getEngineBuilder lookupSecret => ?_⟩
  rw [createBuilder_objectStore hP _ hbucket, cleanPath_prefix hP]

theorem createBuilder_splits_object_store_url_abfs :
    bytes "abfs://" ∈ objectStorePrefixes ∧ 47 ∉ bytes "container" ∧
      (bytes "/path").head? = some 47 ∧
      (bytes "abfs://" ++ bytes "container" ++ bytes "/path").length < 2 ^ 64 ∧
      (∃ secretType, splitUrl (bytes "abfs://container/path") =
        .ok (bytes "ontainer", bytes "/path", secretType)) ∧
      createBuilder (fun _ => .ok ()) (fun _ _ => some ⟨bytes "config", [], none⟩)
          (bytes "abfs://container/path") =
        .ok ⟨bytes "abfs://container/path",
          [(bytes "azure_skip_signature", bytes "true"), (bytes "container_name", bytes "ontainer")]⟩ := by
  obtain ⟨_, secretType, rfl, hsplit, -⟩ := (@createBuilder_splits_object_store_url (bytes "abfs://")
    (by decide) (bytes "container") (bytes "/path") (by decide) rfl (by decide)).1
  exact ⟨by decide, by decide, rfl, by decide, ⟨secretType, hsplit⟩, rfl⟩

/-- `parseFromConnectionString` reads a key that ends another pair's key. In the connection string
`MyAccountName=x;BlobEndpoint=https://acct.blob`, which has no pair with the key `AccountName`, it
reads `x` as the `AccountName`; `CreateBuilder` then passes `x` on as the account name, where the
endpoint names the account `acct`. -/
theorem parse_connection_string_matches_key_suffix :
    [(bytes "MyAccountName", bytes "x"), (bytes "BlobEndpoint", bytes "https://acct.blob")].lookup
        (bytes "AccountName") = none ∧
      parseFromConnectionString (bytes "MyAccountName=x;BlobEndpoint=https://acct.blob")
        (bytes "AccountName") = bytes "x" ∧
      parseAccountNameFromEndpoint (parseFromConnectionString
        (bytes "MyAccountName=x;BlobEndpoint=https://acct.blob") (bytes "BlobEndpoint")) =
          bytes "acct" ∧
      createBuilder (fun _ => .ok ())
          (fun _ _ => some ⟨bytes "config", [(bytes "connection_string",
            bytes "MyAccountName=x;BlobEndpoint=https://acct.blob")], none⟩) (bytes "az://c/t") =
        .ok ⟨bytes "az://c/t", [(bytes "account_name", bytes "x"),
          (bytes "azure_endpoint", bytes "https://acct.blob"), (bytes "container_name", bytes "c")]⟩ :=
  ⟨rfl, rfl, rfl, rfl⟩

/-! ## The S3 endpoint -/

/-- The endpoint the S3 options set always has a scheme: a bare one gets `https://`, or `http://`
where the secret turns SSL off. -/
theorem endpoint_scheme (endpoint : Bytes) (useSsl : Bool) :
    let endpoint :=
      if (!(bytes "https://").isPrefixOf endpoint && !(bytes "http://").isPrefixOf endpoint) = true
      then (if useSsl = true then bytes "https://" else bytes "http://") ++ endpoint
      else endpoint
    (bytes "https://").isPrefixOf endpoint = true ∨ (bytes "http://").isPrefixOf endpoint = true := by
  intro endpoint'
  simp only [endpoint']
  split_ifs with h hssl
  · exact .inl (isPrefixOf_self_append _ _)
  · exact .inr (isPrefixOf_self_append _ _)
  · cases hs : (bytes "https://").isPrefixOf endpoint
    · simp_all
    · exact .inl rfl

/-- With a scheme, `allow_http` goes with an `http://` endpoint and with no other. -/
theorem endpointOptions_of_scheme {endpoint : Bytes}
    (h : (bytes "https://").isPrefixOf endpoint = true ∨ (bytes "http://").isPrefixOf endpoint = true) :
    (bytes "https://").isPrefixOf endpoint = true ∧
        (if (bytes "http://").isPrefixOf endpoint = true then [(bytes "allow_http", bytes "true")]
          else []) ++ [(bytes "aws_endpoint", endpoint)] = [(bytes "aws_endpoint", endpoint)] ∨
      (bytes "http://").isPrefixOf endpoint = true ∧
        (if (bytes "http://").isPrefixOf endpoint = true then [(bytes "allow_http", bytes "true")]
          else []) ++ [(bytes "aws_endpoint", endpoint)] =
          [(bytes "allow_http", bytes "true"), (bytes "aws_endpoint", endpoint)] := by
  by_cases hhttp : (bytes "http://").isPrefixOf endpoint = true
  · exact .inr ⟨hhttp, by rw [if_pos hhttp]; rfl⟩
  · exact .inl ⟨h.resolve_right hhttp, by rw [if_neg hhttp]; rfl⟩

theorem optionIfSet_keys (key value : Bytes) :
    ((optionIfSet key value).map Prod.fst).Sublist [key] := by
  unfold optionIfSet
  split <;> simp

/-- The S3 options are the credentials, then the endpoint options, then the region; the endpoint
options are nothing, the Google endpoint, an `https://` endpoint, or `allow_http` with an
`http://` endpoint. -/
theorem s3Options_shape (path : Bytes) (secret : KeyValueSecret) :
    ∃ pre endpointOptions, (pre.map Prod.fst).Sublist
        [bytes "skip_signature", bytes "aws_access_key_id", bytes "aws_secret_access_key",
          bytes "aws_session_token"] ∧
      s3Options path secret =
        pre ++ endpointOptions ++ [(bytes "aws_region", secret.get (bytes "region"))] ∧
      (endpointOptions = [] ∨
        endpointOptions = [(bytes "aws_endpoint", bytes "https://storage.googleapis.com")] ∨
        ∃ endpoint, (bytes "https://").isPrefixOf endpoint = true ∧
          endpointOptions = [(bytes "aws_endpoint", endpoint)] ∨
          (bytes "http://").isPrefixOf endpoint = true ∧
          endpointOptions = [(bytes "allow_http", bytes "true"), (bytes "aws_endpoint", endpoint)]) := by
  refine ⟨_, _, ?_, rfl, ?_⟩
  · show List.Sublist _ ([bytes "skip_signature"] ++ [bytes "aws_access_key_id"] ++
      [bytes "aws_secret_access_key"] ++ [bytes "aws_session_token"])
    simp only [List.map_append]
    refine .append (.append (.append ?_ (optionIfSet_keys _ _)) (optionIfSet_keys _ _))
      (optionIfSet_keys _ _)
    split <;> simp
  · split
    · exact .inr (.inr ⟨_, endpointOptions_of_scheme (endpoint_scheme _ _)⟩)
    · split
      · exact .inr (.inl rfl)
      · exact .inl rfl

theorem not_isPrefixOf_http_of_https {endpoint : Bytes}
    (h : (bytes "https://").isPrefixOf endpoint = true) :
    (bytes "http://").isPrefixOf endpoint = false := by
  rw [← Bool.not_eq_true, List.isPrefixOf_iff_prefix]
  intro hhttp
  have := List.prefix_of_prefix_length_le hhttp (List.isPrefixOf_iff_prefix.1 h) (by decide)
  exact absurd this (by decide)

/-- The S3 options never give the kernel an endpoint without a scheme, and allow plain HTTP
exactly for a plain HTTP endpoint. For every path and secret, every `aws_endpoint` they set
starts with `https://` or `http://`; and they set `allow_http`, always to `true`, exactly when
they set an `aws_endpoint` that starts with `http://`. -/
theorem s3Options_endpoint (path : Bytes) (secret : KeyValueSecret) :
    (∀ v, (bytes "aws_endpoint", v) ∈ s3Options path secret →
      (bytes "https://").isPrefixOf v = true ∨ (bytes "http://").isPrefixOf v = true) ∧
    ∀ v, (bytes "allow_http", v) ∈ s3Options path secret ↔
      v = bytes "true" ∧ ∃ endpoint, (bytes "aws_endpoint", endpoint) ∈ s3Options path secret ∧
        (bytes "http://").isPrefixOf endpoint = true := by
  obtain ⟨pre, endpointOptions, hpre, heq, hshape⟩ := s3Options_shape path secret
  have hmem : ∀ k ∈ [bytes "aws_endpoint", bytes "allow_http"], ∀ v,
      (k, v) ∈ s3Options path secret ↔ (k, v) ∈ endpointOptions := by
    intro k hk v
    have hpre' : (k, v) ∉ pre := fun h =>
      (by decide : ∀ k ∈ [bytes "aws_endpoint", bytes "allow_http"], k ∉ [bytes "skip_signature",
        bytes "aws_access_key_id", bytes "aws_secret_access_key", bytes "aws_session_token"])
        k hk (hpre.subset (List.mem_map_of_mem Prod.fst h))
    have hregion : k ≠ bytes "aws_region" := by
      rintro rfl
      exact absurd hk (by decide)
    rw [heq]
    simp [hpre', hregion]
  have hne : bytes "allow_http" ≠ bytes "aws_endpoint" := by decide
  simp only [hmem _ (List.mem_cons_self _ _),
    hmem _ (List.mem_cons_of_mem _ (List.mem_cons_self _ _))]
  rcases hshape with rfl | rfl | ⟨e, ⟨he, rfl⟩ | ⟨he, rfl⟩⟩
  · simp
  · simp only [List.mem_singleton, Prod.mk.injEq, true_and, hne, false_and, false_iff,
      exists_eq_left, not_and]
    exact ⟨fun v hv => hv ▸ .inl (by decide), fun _ _ => by decide⟩
  · simp only [List.mem_singleton, Prod.mk.injEq, true_and, hne, false_and, false_iff,
      exists_eq_left, not_and, not_isPrefixOf_http_of_https he]
    exact ⟨fun v hv => hv ▸ .inl he, fun _ _ => by decide⟩
  · simp [hne, hne.symm, List.isPrefixOf_iff_prefix.1 he]

/-! ## No option is set twice -/

/-- The S3 options set their keys in this order, each at most once. -/
theorem s3Options_keys (path : Bytes) (secret : KeyValueSecret) :
    ((s3Options path secret).map Prod.fst).Sublist
      ([bytes "skip_signature"] ++ [bytes "aws_access_key_id"] ++ [bytes "aws_secret_access_key"] ++
        [bytes "aws_session_token"] ++ [bytes "allow_http", bytes "aws_endpoint"] ++
        [bytes "aws_region"]) := by
  obtain ⟨pre, endpointOptions, hpre, heq, hshape⟩ := s3Options_shape path secret
  rw [heq, List.map_append, List.map_append]
  refine .append (.append hpre ?_) (.refl _)
  rcases hshape with rfl | rfl | ⟨e, ⟨-, rfl⟩ | ⟨-, rfl⟩⟩ <;> simp

/-- Each provider sets its own authentication keys, each at most once. -/
theorem azureAuthentication_keys {secret : KeyValueSecret}
    {r : List (Bytes × Bytes) × Bytes × Bytes} (h : azureAuthentication secret = .ok r) :
    (r.1.map Prod.fst).Sublist
      [bytes "bearer_token", bytes "use_azure_cli", bytes "account_key", bytes "sas_token",
        bytes "azure_client_id", bytes "azure_client_secret", bytes "azure_tenant_id",
        bytes "azure_skip_signature"] := by
  simp only [azureAuthentication] at h
  split_ifs at h <;> cases h <;>
    try simp only [List.map_cons, List.map_nil, List.nil_sublist, List.map_append]
  · decide
  · decide
  · simp only [connectionStringOptions]
    split
    · simp only [List.map_cons, List.map_nil]
      decide
    · exact (optionIfSet_keys _ _).trans (by decide)
  · exact (((optionIfSet_keys _ _).append (optionIfSet_keys _ _)).append
      (optionIfSet_keys _ _)).trans (by decide)
  · decide

/-- The Azure options set their keys in this order, each at most once. -/
theorem azureOptions_keys {secret : KeyValueSecret} {bucket : Bytes}
    {options : List (Bytes × Bytes)} (h : azureOptions secret bucket = .ok options) :
    (options.map Prod.fst).Sublist
      ([bytes "use_fabric_endpoint"] ++
        [bytes "bearer_token", bytes "use_azure_cli", bytes "account_key", bytes "sas_token",
          bytes "azure_client_id", bytes "azure_client_secret", bytes "azure_tenant_id",
          bytes "azure_skip_signature"] ++
        [bytes "use_emulator"] ++ [bytes "account_name"] ++ [bytes "azure_endpoint"] ++
        [bytes "container_name"]) := by
  simp only [azureOptions] at h
  cases hauth : azureAuthentication secret with
  | error e => rw [hauth] at h; cases h
  | ok r =>
    obtain ⟨authentication, accountName, endpoint⟩ := r
    rw [hauth] at h
    cases h
    simp only [List.map_append]
    refine .append (.append (.append (.append (.append ?_ (azureAuthentication_keys hauth)) ?_)
      (optionIfSet_keys _ _)) (optionIfSet_keys _ _)) (.refl _)
    · split <;> simp
    · split <;> simp

theorem getBuilder_options {getEngineBuilder : Bytes → Except Bytes Unit} {path : Bytes}
    {builder : EngineBuilder} (h : getBuilder getEngineBuilder path = .ok builder) :
    builder.options = [] := by
  unfold getBuilder at h
  split at h <;> cases h
  rfl

theorem configureBuilder_nodup {path bucket secretType : Bytes} {builder builder' : EngineBuilder}
    {secret : Option KeyValueSecret}
    (h : configureBuilder path bucket secretType builder secret = .ok builder')
    (hb : builder.options = []) : (builder'.options.map Prod.fst).Nodup := by
  cases secret with
  | none =>
    simp only [configureBuilder] at h
    split_ifs at h
    cases h
    simp [hb]
  | some secret =>
    simp only [configureBuilder] at h
    split_ifs at h
    · cases h
      rw [hb, List.nil_append]
      exact (s3Options_keys path secret).nodup (by decide)
    · cases hopt : azureOptions secret bucket with
      | error e => rw [hopt] at h; cases h
      | ok options =>
        rw [hopt] at h
        cases h
        simp only [hb, List.nil_append]
        exact (azureOptions_keys hopt).nodup (by decide)
    · cases h
      simp [hb]

/-- `CreateBuilder` never sets an option twice: for every path, kernel and secret manager, the
builder it returns has its options under distinct keys. -/
theorem createBuilder_options_nodup {getEngineBuilder : Bytes → Except Bytes Unit}
    {lookupSecret : Bytes → Bytes → Option KeyValueSecret} {path : Bytes} {builder : EngineBuilder}
    (h : createBuilder getEngineBuilder lookupSecret path = .ok builder) :
    (builder.options.map Prod.fst).Nodup := by
  unfold createBuilder at h
  split_ifs at h
  · cases hs : splitUrl path with
    | error e => rw [hs] at h; cases h
    | ok r =>
      obtain ⟨bucket, pathInBucket, secretType⟩ := r
      cases hb : getBuilder getEngineBuilder (cleanPath path) with
      | error e => simp [hs, hb] at h
      | ok b =>
        simp only [hs, hb, except_ok_bind] at h
        exact configureBuilder_nodup h (getBuilder_options hb)
  · rw [getBuilder_options h]
    exact List.nodup_nil

theorem createBuilder_options_nodup_sample :
    createBuilder (fun _ => .ok ()) (fun _ _ => some ⟨bytes "config",
        [(bytes "connection_string", bytes "AccountName=a;AccountKey=k")], none⟩) (bytes "az://c/t") =
      .ok ⟨bytes "az://c/t", [(bytes "account_key", bytes "k"), (bytes "account_name", bytes "a"),
        (bytes "container_name", bytes "c")]⟩ ∧
    ([(bytes "account_key", bytes "k"), (bytes "account_name", bytes "a"),
        (bytes "container_name", bytes "c")].map Prod.fst).Nodup :=
  have h : createBuilder (fun _ => .ok ()) (fun _ _ => some ⟨bytes "config",
        [(bytes "connection_string", bytes "AccountName=a;AccountKey=k")], none⟩) (bytes "az://c/t") =
      .ok ⟨bytes "az://c/t", [(bytes "account_key", bytes "k"), (bytes "account_name", bytes "a"),
        (bytes "container_name", bytes "c")]⟩ := rfl
  ⟨h, createBuilder_options_nodup h⟩

end DeltaScan
