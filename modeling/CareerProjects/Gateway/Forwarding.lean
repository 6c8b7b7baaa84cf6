import CareerProjects.Gateway.Proxy

/-! What a service receives for a public request: the same request exactly where the decoded path
has nothing left that the HTTP library or the service gives a meaning to. -/

namespace CareerProjects.Gateway

open Library Library.UrlPath

/-- A request whose path is a resource's root, or goes on after the root's slash with any percent
encoding. -/
structure PublicRequest where
  resource : Resource
  rest : Option (List Char)
  restPlain : ∀ text ∈ rest, ∀ c ∈ text, '!' ≤ c ∧ c ≤ '~' ∧ delimiter c = false
  method : String
  queryParams : List (String × String)
  headers : List (String × String)
  body : List UInt8

def under (root : List Char) : Option (List Char) → List Char
  | none => root
  | some rest => root ++ '/' :: rest

namespace PublicRequest

variable (request : PublicRequest)

def toRequest : Request where
  method := request.method
  rawPath := under request.resource.root request.rest
  queryParams := request.queryParams
  headers := request.headers
  body := request.body

def decodedRest : Option (List Char) := request.rest.map unquote

/-- One request is sent, to the service that owns the resource, with the same method, body and
parameters, and the service decodes its path to the path that was asked for. -/
def Forwarded (client : HttpClient) (settings : Settings) : Prop :=
  ∃ sent, (handle client settings request.toRequest).1 = [sent] ∧
    sent.scheme = (settings.url request.resource.owner).scheme ∧
    sent.authority = (settings.url request.resource.owner).authority ∧
    sent.method = request.method ∧ sent.content.getD [] = request.body ∧
    sent.queryParams = request.queryParams ∧
    unquote sent.rawPath = unquote request.toRequest.rawPath

end PublicRequest

/-- What comes after the root means only itself: it is not an empty end, and has no `?`, no `#`, no
dot segment and no escape. -/
def Literal (rest : Option (List Char)) : Prop :=
  rest ≠ some [] ∧ ∀ text ∈ rest, (∀ c ∈ text, c ≠ '?' ∧ c ≠ '#') ∧
    (∀ segment ∈ text.splitOn '/', ¬dots segment) ∧ Unescaped text

def Printable (rest : Option (List Char)) : Prop := ∀ text ∈ rest, ∀ c ∈ text, control c = false

/-- Neither the URL nor its path or parameters are too long for the library. -/
def PublicRequest.Fits (request : PublicRequest) (client : HttpClient) (settings : Settings) : Prop :=
  (services settings request.resource.owner).baseUrl.length + (under request.resource.root request.decodedRest).length ≤
      MAX_URL_LENGTH ∧
    (quote client.safe (under request.resource.root request.decodedRest)).length ≤ MAX_URL_LENGTH ∧
    (urlencode request.queryParams).length ≤ MAX_URL_LENGTH

theorem unquote_cons {c : Char} (plain : c ≠ '%') (text : List Char) : unquote (c :: text) = c :: unquote text := by
  have none : escaped (c :: text) = none := by
    unfold escaped
    split
    · next shape =>
      rw [List.cons.injEq] at shape
      rw [if_neg (shape.1 ▸ plain)]
    · rfl
  rw [unquote, unquoteFrom, none]
  exact Utf8.decode_append c _

theorem unquote_append {front : List Char} (plain : '%' ∉ front) (text : List Char) :
    unquote (front ++ text) = front ++ unquote text := by
  induction front with
  | nil => rfl
  | cons c front ih =>
    rw [List.mem_cons, not_or] at plain
    rw [List.cons_append, unquote_cons (Ne.symm plain.1), ih plain.2, List.cons_append]

theorem root_plain (resource : Resource) : '%' ∉ resource.root ∧ (∀ c ∈ resource.root, c ≠ '?' ∧ c ≠ '#') ∧
    ∀ segment ∈ resource.root.splitOn '/', ¬dots segment := by
  refine ⟨?_, ?_, ?_⟩
  · cases resource <;> decide +kernel
  · cases resource <;> exact @of_decide_eq_true _ (List.decidableBAll _ _) (by decide +kernel)
  · cases resource <;> decide +kernel

theorem root_shape (resource : Resource) : ∃ c rest, resource.root = '/' :: c :: rest ∧ c ≠ '/' := by
  cases resource <;> exact ⟨_, _, rfl, by decide⟩

theorem unquote_under (resource : Resource) (rest : Option (List Char)) :
    unquote (under resource.root rest) = under resource.root (rest.map unquote) := by
  have plain := (root_plain resource).1
  cases rest with
  | none =>
    have whole := unquote_append plain []
    rwa [List.append_nil, show unquote [] = [] from rfl, List.append_nil] at whole
  | some rest =>
    rw [under, unquote_append plain, unquote_cons (by decide)]
    rfl

theorem eq_of_letter {a b : Resource} (same : a.root[1]? = b.root[1]?) : a = b := by
  revert same
  cases a <;> cases b <;> decide +kernel

theorem letter_append (resource : Resource) (tail : List Char) :
    (resource.root ++ tail)[1]? = resource.root[1]? := by
  obtain ⟨c, rest, shape, -⟩ := root_shape resource
  rw [shape]
  rfl

theorem pathConvertor_eq_some {text line : List Char} :
    pathConvertor text = some line ↔ '\n' ∉ line ∧ (text = line ∨ text = line ++ ['\n']) := by
  have parts := List.takeWhile_append_dropWhile (p := fun c => decide (c ≠ '\n')) (l := text)
  have plain : '\n' ∉ text.takeWhile (· ≠ '\n') := fun inside => by simpa using List.mem_takeWhile_imp inside
  have whole {line : List Char} (apart : '\n' ∉ line) : ∀ c ∈ line, decide (c ≠ '\n') = true :=
    fun c member => decide_eq_true fun same => apart (same ▸ member)
  rw [pathConvertor, Option.ite_none_right_eq_some, Option.some.injEq, atEnd, Bool.or_eq_true, decide_eq_true_eq,
    decide_eq_true_eq]
  constructor
  · rintro ⟨last, rfl⟩
    refine ⟨plain, ?_⟩
    rcases last with last | last
    · exact .inl (by rw [last, List.append_nil] at parts; exact parts.symm)
    · exact .inr (by rw [last] at parts; exact parts.symm)
  · rintro ⟨apart, rfl | rfl⟩
    · rw [List.dropWhile_eq_nil_iff.mpr (whole apart), List.takeWhile_eq_self_iff.mpr (whole apart)]
      exact ⟨.inl rfl, rfl⟩
    · rw [List.dropWhile_append_of_pos (whole apart), List.takeWhile_append_of_pos (whole apart)]
      simp

theorem remaining_under (resource other : Resource) (rest : Option (List Char)) :
    other.remaining (under resource.root rest) =
      if other = resource then rest.elim (some []) pathConvertor else none := by
  unfold Resource.remaining
  by_cases same : other = resource
  · subst same
    cases rest with
    | none => simp [under]
    | some rest =>
      rw [if_neg (by simp [under]), if_pos (by simp [under]), if_pos rfl]
      simp [under]
  · have apart : ¬other.root <+: under resource.root rest := by
      -- the roots differ in their first letters
      rintro ⟨tail, shape⟩
      have letter := congrArg (fun path : List Char => path[1]?) shape
      simp only [letter_append] at letter
      refine same (eq_of_letter (letter.trans ?_))
      cases rest with
      | none => rfl
      | some rest => exact letter_append resource _
    rw [if_neg, if_neg, if_neg same]
    · intro prefixed
      exact apart ((List.prefix_append _ _).trans (List.isPrefixOf_iff_prefix.mp prefixed))
    · rintro (whole | whole)
      · exact apart (whole ▸ List.prefix_rfl)
      · exact apart (whole ▸ List.prefix_append _ _)

theorem route_under (resource : Resource) (rest : Option (List Char)) :
    route (under resource.root rest) = (rest.elim (some []) pathConvertor).map fun line => (resource, line) := by
  unfold route
  simp only [List.findSome?, remaining_under]
  cases resource <;> simp <;> cases rest.elim (some []) pathConvertor <;> rfl

theorem baseUrl_text (name : String) (url : ServiceUrl) :
    (DownstreamService.new name url.text).baseUrl = url.scheme ++ ("://".toList ++ url.authority) := by
  have stripped : ∀ (n : ℕ) (front : List Char),
      (front ++ List.replicate n '/').rdropWhile (· = '/') = front.rdropWhile (· = '/') := by
    intro n
    induction n with
    | zero => simp
    | succ n ih =>
      intro front
      rw [List.replicate_succ', ← List.append_assoc, List.rdropWhile_concat_pos _ _ _ (by simp), ih]
  rw [DownstreamService.new, ServiceUrl.text, ← List.append_assoc _ url.authority, ← List.append_assoc,
    stripped, List.rdropWhile_eq_self_iff]
  intro some
  have last : (url.scheme ++ ("://".toList ++ url.authority)).getLast some = url.authority.getLast url.authoritySome := by
    rw [List.getLast_append_of_ne_nil, List.getLast_append_of_ne_nil]
    exact List.append_ne_nil_of_right_ne_nil _ url.authoritySome
  rw [last]
  simpa using (url.authorityPlain _ (List.getLast_mem url.authoritySome)).1

theorem baseUrl_services (settings : Settings) (key : ServiceKey) : (services settings key).baseUrl =
    (settings.url key).scheme ++ ("://".toList ++ (settings.url key).authority) := by
  cases key <;> exact baseUrl_text _ _

theorem targetUrl_eq (service : DownstreamService) {path : List Char} {c : Char} {rest : List Char}
    (shape : path = '/' :: c :: rest) (single : c ≠ '/') : targetUrl service path = service.baseUrl ++ path := by
  rw [targetUrl, shape, List.dropWhile_cons_of_pos (by simp), List.dropWhile_cons_of_neg (by simpa using single)]

theorem splitUrl_base (settings : Settings) (key : ServiceKey) {path : List Char} {rest : List Char}
    (shape : path = '/' :: rest) : splitUrl ((services settings key).baseUrl ++ path) =
      ((settings.url key).scheme, (settings.url key).authority, untilDelimiter path) := by
  have authority : ∀ c ∈ (settings.url key).authority, (c ≠ '/' && !delimiter c) = true := by
    intro c member
    have plain := (settings.url key).authorityPlain c member
    simp [plain.1, plain.2]
  have separator : "://".toList = [] ++ ':' :: "//".toList := rfl
  rw [baseUrl_services, List.append_assoc, List.append_assoc, splitUrl,
    cut_append separator List.not_mem_nil (settings.url key).schemePlain]
  simp only [Prod.mk.injEq, true_and]
  rw [List.takeWhile_append_of_pos authority, List.dropWhile_append_of_pos authority, shape]
  simp

theorem control_base (settings : Settings) (key : ServiceKey) (path : List Char) :
    ((services settings key).baseUrl ++ path).any control = path.any control := by
  have base : (services settings key).baseUrl.any control = false := by
    rw [baseUrl_services]
    have printable := (settings.url key).printable
    rw [List.forall_mem_append] at printable
    have separator : "://".toList.any control = false := by decide
    simp only [List.any_append, separator, Bool.false_or, Bool.or_eq_false_iff, List.any_eq_false]
    exact ⟨fun c member => by simp [printable.1 c member], fun c member => by simp [printable.2 c member]⟩
  rw [List.any_append, base, Bool.false_or]

theorem proxy_eq (resource : Resource) (client : HttpClient) (settings : Settings) (request : Request)
    (remainingPath : List Char) : resource.proxy client settings request remainingPath =
      forward client settings request resource.owner (buildDownstreamPath resource.root remainingPath) := by
  cases resource <;> rfl

theorem buildDownstreamPath_shape (resource : Resource) (remainingPath : List Char) :
    ∃ c rest, buildDownstreamPath resource.root remainingPath = '/' :: c :: rest ∧ c ≠ '/' := by
  obtain ⟨c, rest, shape, single⟩ := root_shape resource
  unfold buildDownstreamPath
  by_cases none : remainingPath = []
  · exact ⟨c, rest, by rw [if_pos none, shape], single⟩
  · exact ⟨c, rest ++ '/' :: remainingPath, by rw [if_neg none, shape]; rfl, single⟩

/-- The library takes the URL for a path and parameters. -/
def Accepted (client : HttpClient) (service : DownstreamService) (path : List Char)
    (queryParams : List (String × String)) : Prop :=
  service.baseUrl.length + path.length ≤ MAX_URL_LENGTH ∧ path.any control = false ∧
    (quote client.safe (removeDots (untilDelimiter path))).length ≤ MAX_URL_LENGTH ∧
    (urlencode (grouped Prod.fst queryParams)).length ≤ MAX_URL_LENGTH

instance (client : HttpClient) (service : DownstreamService) (path : List Char)
    (queryParams : List (String × String)) : Decidable (Accepted client service path queryParams) := by
  unfold Accepted
  infer_instance

namespace PublicRequest

def sent (client : HttpClient) (settings : Settings) (request : PublicRequest) (path : List Char) : Sent where
  scheme := (settings.url request.resource.owner).scheme
  authority := (settings.url request.resource.owner).authority
  method := request.method
  rawPath := quote client.safe (removeDots (untilDelimiter path))
  queryParams := grouped Prod.fst request.queryParams
  headers := forwardedHeaders request.headers
  content := if request.body = [] then none else some request.body

end PublicRequest

theorem forward_sent (client : HttpClient) (settings : Settings) (request : PublicRequest) {path : List Char}
    {c : Char} {rest : List Char} (shape : path = '/' :: c :: rest) (single : c ≠ '/') :
    (forward client settings request.toRequest request.resource.owner path).1 =
      if Accepted client (services settings request.resource.owner) path request.queryParams then
        [request.sent client settings path] else [] := by
  have split := splitUrl_base settings request.resource.owner shape
  rw [forward, targetUrl_eq _ shape single]
  simp only [HttpClient.buildRequest, control_base, List.length_append, split]
  by_cases accepted : Accepted client (services settings request.resource.owner) path request.queryParams
  · rw [if_pos accepted]
    obtain ⟨length, printable, rawPath, queryText⟩ := accepted
    have parts : ¬(MAX_URL_LENGTH < (quote client.safe (removeDots (untilDelimiter path))).length ∨
        MAX_URL_LENGTH < (urlencode (grouped Prod.fst request.toRequest.queryParams)).length) :=
      not_or.mpr ⟨not_lt.mpr rawPath, not_lt.mpr queryText⟩
    rw [if_neg (not_lt.mpr length), if_neg (by simp [printable]), if_neg parts]
    rfl
  · rw [if_neg accepted]
    by_cases long : MAX_URL_LENGTH < (services settings request.resource.owner).baseUrl.length + path.length
    · rw [if_pos long]
    · rw [if_neg long]
      by_cases unprintable : path.any control = true
      · rw [if_pos unprintable]
      · rw [if_neg unprintable, if_pos]
        by_contra parts
        rw [not_or] at parts
        exact accepted ⟨not_lt.mp long, by simpa using unprintable, not_lt.mp parts.1, not_lt.mp parts.2⟩

theorem handle_sent (client : HttpClient) (settings : Settings) (request : PublicRequest)
    (proxied : request.method ∈ PROXY_METHODS) :
    (handle client settings request.toRequest).1 =
      match request.decodedRest.elim (some []) pathConvertor with
      | none => []
      | some line =>
        let path := buildDownstreamPath request.resource.root line
        if Accepted client (services settings request.resource.owner) path request.queryParams then
          [request.sent client settings path] else [] := by
  have routed : route (unquote request.toRequest.rawPath) =
      (request.decodedRest.elim (some []) pathConvertor).map fun line => (request.resource, line) := by
    rw [PublicRequest.toRequest, unquote_under, route_under]
    rfl
  have method : request.toRequest.method ∈ PROXY_METHODS := proxied
  rw [handle, routed]
  cases request.decodedRest.elim (some []) pathConvertor with
  | none => rfl
  | some line =>
    obtain ⟨c, rest, shape, single⟩ := buildDownstreamPath_shape request.resource line
    simp only [Option.map_some, if_pos method, proxy_eq]
    exact forward_sent client settings request shape single

theorem handle_refused (client : HttpClient) (settings : Settings) (request : PublicRequest)
    (other : request.method ∉ PROXY_METHODS) : (handle client settings request.toRequest).1 = [] := by
  have method : request.toRequest.method ∉ PROXY_METHODS := other
  rw [handle]
  split
  · rfl
  · rw [if_neg method]

theorem narrow_buildDownstreamPath (resource : Resource) :
    Utf8.narrow (buildDownstreamPath resource.root []) < Utf8.narrow (under resource.root (some [])) := by
  rw [buildDownstreamPath, if_pos rfl, under, Utf8.narrow_append]
  have slash : Utf8.narrow ['/'] = 1 := rfl
  omega

theorem literal_iff (resource : Resource) (rest : Option (List Char)) :
    (untilDelimiter (under resource.root rest) = under resource.root rest ∧
      removeDots (under resource.root rest) = under resource.root rest ∧
      unquote (under resource.root rest) = under resource.root rest) ↔
    ∀ text ∈ rest, (∀ c ∈ text, c ≠ '?' ∧ c ≠ '#') ∧ (∀ segment ∈ text.splitOn '/', ¬dots segment) ∧
      Unescaped text := by
  obtain ⟨mark, characters, segments⟩ := root_plain resource
  rw [untilDelimiter_eq_iff, removeDots_eq_iff, unquote_under]
  cases rest with
  | none =>
    simp only [under, Option.map_none, and_true, Option.not_mem_none, false_implies, implies_true, iff_true]
    exact ⟨characters, segments⟩
  | some text =>
    have slash : '/' ≠ '?' ∧ '/' ≠ '#' := by decide
    simp only [under, Option.map_some, Option.mem_def, Option.some.injEq, forall_eq', List.append_cancel_left_eq,
      List.cons.injEq, true_and, unquote_eq_iff]
    rw [List.splitOn_append_cons_self, List.forall_mem_append, List.forall_mem_append, List.forall_mem_cons,
      and_iff_right characters, and_iff_right segments, and_iff_right slash]

theorem buildDownstreamPath_getD (resource : Resource) {rest : Option (List Char)} (nonempty : rest ≠ some []) :
    buildDownstreamPath resource.root (rest.getD []) = under resource.root rest := by
  cases rest with
  | none => rfl
  | some text =>
    have some : text ≠ [] := fun none => nonempty (by rw [none])
    rw [Option.getD_some, buildDownstreamPath, if_neg some]
    rfl

theorem received_eq_iff (resource : Resource) (rest : Option (List Char)) :
    unquote (removeDots (untilDelimiter (buildDownstreamPath resource.root (rest.getD [])))) =
      under resource.root rest ↔ Literal rest := by
  have inner := shrinking_removeDots.comp shrinking_untilDelimiter
  by_cases empty : rest = some []
  · refine iff_of_false (fun same => ?_) fun literal => literal.1 empty
    have smaller := (shrinking_unquote.comp inner).le (buildDownstreamPath resource.root (rest.getD []))
    have shorter := narrow_buildDownstreamPath resource
    subst empty
    rw [Option.getD_some] at same
    simp only [Option.getD_some, same] at smaller
    omega
  · rw [buildDownstreamPath_getD resource empty, shrinking_unquote.comp_eq_iff inner,
      shrinking_removeDots.comp_eq_iff shrinking_untilDelimiter, and_assoc, literal_iff, Literal, and_iff_right empty]

theorem received_line (resource : Resource) (line : List Char) :
    unquote (removeDots (untilDelimiter (buildDownstreamPath resource.root line))) ≠
      under resource.root (some (line ++ ['\n'])) := by
  intro same
  have inner := shrinking_removeDots.comp shrinking_untilDelimiter
  have smaller := (shrinking_unquote.comp inner).le (buildDownstreamPath resource.root line)
  have front : Utf8.narrow (buildDownstreamPath resource.root line) ≤ Utf8.narrow (under resource.root (some line)) := by
    by_cases empty : line = []
    · rw [empty]
      exact (narrow_buildDownstreamPath resource).le
    · have some : some line ≠ some [] := by simpa using empty
      exact (congrArg Utf8.narrow (buildDownstreamPath_getD resource some)).le
  have newline : Utf8.narrow ['\n'] = 1 := rfl
  have whole : under resource.root (some (line ++ ['\n'])) = under resource.root (some line) ++ ['\n'] := by
    simp [under]
  simp only [same, whole, Utf8.narrow_append] at smaller
  omega

theorem root_printable (resource : Resource) : resource.root.any control = false := by
  cases resource <;> decide

theorem any_under (resource : Resource) (rest : Option (List Char)) :
    (under resource.root rest).any control = false ↔ Printable rest := by
  have slash : control '/' = false := by decide
  cases rest with
  | none => simp [under, root_printable, Printable]
  | some text =>
    simp only [under, List.any_append, List.any_cons, root_printable, slash, Bool.false_or, List.any_eq_false,
      Bool.not_eq_true, Printable, Option.mem_def, Option.some.injEq, forall_eq']

theorem pathConvertor_printable {rest : Option (List Char)} (printable : Printable rest) :
    rest.elim (some []) pathConvertor = some (rest.getD []) := by
  cases rest with
  | none => rfl
  | some text =>
    refine pathConvertor_eq_some.mpr ⟨fun inside => ?_, .inl rfl⟩
    have plain := printable text rfl _ inside
    cases plain

variable {client : HttpClient} {settings : Settings} {request : PublicRequest}

theorem accepted_iff (literal : Literal request.decodedRest) (together : Together Prod.fst request.queryParams) :
    Accepted client (services settings request.resource.owner) (under request.resource.root request.decodedRest)
        request.queryParams ↔ Printable request.decodedRest ∧ request.Fits client settings := by
  have kept := (literal_iff request.resource request.decodedRest).mpr literal.2
  rw [Accepted, PublicRequest.Fits, kept.1, kept.2.1, (grouped_eq_iff _).mpr together, any_under]
  tauto

theorem forwarded_sent (line : List Char) (together : Together Prod.fst request.queryParams) :
    let sent := request.sent client settings (buildDownstreamPath request.resource.root line)
    sent.content.getD [] = request.body ∧ sent.queryParams = request.queryParams ∧
      unquote sent.rawPath = unquote (removeDots (untilDelimiter (buildDownstreamPath request.resource.root line))) := by
  refine ⟨?_, (grouped_eq_iff _).mpr together, unquote_quote _ _⟩
  by_cases none : request.body = [] <;> simp [PublicRequest.sent, none]

def sampleUrl (authority : String)
    (plain : (!authority.toList.isEmpty && authority.toList.all fun c => c ≠ '/' && !delimiter c && !control c) = true) :
    ServiceUrl where
  scheme := "http".toList
  authority := authority.toList
  slashes := 0
  schemePlain := by decide +kernel
  authoritySome := by
    rw [Bool.and_eq_true, Bool.not_eq_true'] at plain
    exact fun none => by rw [none] at plain; cases plain.1
  authorityPlain c member := by
    have each := List.all_eq_true.mp (Bool.and_eq_true_iff.mp plain).2 c member
    simp only [Bool.and_eq_true, decide_eq_true_eq, Bool.not_eq_true'] at each
    exact each.1
  printable := by
    rw [List.forall_mem_append]
    have scheme : "http".toList.any control = false := by decide +kernel
    refine ⟨fun c member => by simpa using List.any_eq_false.mp scheme c member, fun c member => ?_⟩
    have each := List.all_eq_true.mp (Bool.and_eq_true_iff.mp plain).2 c member
    simp only [Bool.and_eq_true, Bool.not_eq_true'] at each
    exact each.2

def sampleSettings : Settings where
  inventoryServiceUrl := sampleUrl "127.0.0.1:8001" (by decide +kernel)
  warehouseServiceUrl := sampleUrl "127.0.0.1:8002" (by decide +kernel)
  orderServiceUrl := sampleUrl "127.0.0.1:8003" (by decide +kernel)

/-- Letters, digits and the punctuation of paths are not escaped. -/
def sampleClient : HttpClient where
  safe c := c.isAlphanum || c ∈ "-._~/%".toList
  transport _ := .ok ⟨200, fun _ => none, []⟩

def climbing : PublicRequest where
  resource := .products
  rest := some "%2e%2e/health".toList
  restPlain := by
    rintro text ⟨⟩
    exact @of_decide_eq_true _ (List.decidableBAll _ _) (by decide +kernel)
  method := "GET"
  queryParams := []
  headers := []
  body := []

end CareerProjects.Gateway
