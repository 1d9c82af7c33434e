import IrohEndpoint.Opens

/-! # Relay URLs

Two canonical forms of one URL: the pool identifies a relay by its URL up to trailing
slashes, and the websocket is opened at the scheme and host alone. -/

namespace IrohEndpoint

/-! ## The parts of an accepted URL -/

/-- A URL as `relay_url` reads it. -/
structure UrlParts where
  scheme : List Char
  host : List Char
  path : List Char
  deriving DecidableEq

namespace UrlParts

def text (parts : UrlParts) : List Char :=
  parts.scheme ++ ':' :: '/' :: '/' :: (parts.host ++ parts.path)

/-- The scheme maps onto `ws`. -/
def plain (parts : UrlParts) : Bool :=
  parts.scheme = "http".toList ∨ parts.scheme = "ws".toList

def websocketScheme (parts : UrlParts) : String := if parts.plain then "ws" else "wss"

def trimmedPath (parts : UrlParts) : List Char := parts.path.rdropWhile (· == '/')

def trimmed (parts : UrlParts) : UrlParts := { parts with path := parts.trimmedPath }

def target (parts : UrlParts) : String :=
  parts.websocketScheme ++ "://" ++ String.ofList parts.host ++ relayPath

end UrlParts

def urlParts (url : String) : Option UrlParts :=
  match splitScheme url.toList with
  | none => none
  | some (scheme, rest) =>
      if (rest.takeWhile (· ≠ '/')).isEmpty then none
      else some ⟨scheme, rest.takeWhile (· ≠ '/'), rest.dropWhile (· ≠ '/')⟩

private theorem relayUrl_eq_ok {url target : String} :
    relayUrl url = .ok target ↔ ∃ parts, urlParts url = some parts ∧ parts.target = target := by
  rw [relayUrl, urlParts]
  cases splitScheme url.toList with
  | none => simp
  | some found =>
      rcases found with ⟨scheme, rest⟩
      dsimp only
      by_cases hostless : (rest.takeWhile (· ≠ '/')).isEmpty = true
      · rw [if_pos hostless, if_pos hostless]
        simp
      · rw [if_neg hostless, if_neg hostless]
        simp [UrlParts.target, UrlParts.websocketScheme, UrlParts.plain]

private theorem splitScheme_cons (character : Char) (rest : List Char) :
    splitScheme (character :: rest) =
      if character = ':' ∧ rest.take 2 = ['/', '/'] then some ([], rest.drop 2)
      else (splitScheme rest).map fun (scheme, remaining) =>
        (character :: scheme, remaining) := by
  by_cases separator : character = ':' ∧ rest.take 2 = ['/', '/']
  · rw [if_pos separator]
    rcases separator with ⟨rfl, slashes⟩
    rcases rest with _ | ⟨first, _ | ⟨second, rest⟩⟩
    · cases slashes
    · cases slashes
    · simp only [List.take_succ_cons, List.take_zero, List.cons.injEq, and_true] at slashes
      rcases slashes with ⟨rfl, rfl⟩
      rfl
  · rw [if_neg separator, splitScheme]
    intro remaining colon slashes
    apply separator
    rw [slashes]
    exact ⟨colon, rfl⟩

private theorem splitScheme_eq {characters scheme rest : List Char}
    (found : splitScheme characters = some (scheme, rest)) :
    characters = scheme ++ ':' :: '/' :: '/' :: rest := by
  induction characters generalizing scheme with
  | nil => cases found
  | cons character characters induction =>
      rw [splitScheme_cons] at found
      split at found
      · rename_i separator
        rcases separator with ⟨rfl, slashes⟩
        cases found
        rw [List.nil_append, ← List.take_append_drop 2 characters, slashes]
        rfl
      · cases later : splitScheme characters with
        | none =>
            rw [later] at found
            cases found
        | some parts =>
            rcases parts with ⟨first, last⟩
            rw [later] at found
            cases found
            rw [List.cons_append, ← induction later]

private theorem splitScheme_swap {scheme rest : List Char} (other : List Char)
    (found : splitScheme (scheme ++ ':' :: '/' :: '/' :: rest) = some (scheme, rest)) :
    splitScheme (scheme ++ ':' :: '/' :: '/' :: other) = some (scheme, other) := by
  induction scheme with
  | nil => rfl
  | cons character scheme induction =>
      rw [List.cons_append, splitScheme_cons] at found ⊢
      have ahead : (scheme ++ ':' :: '/' :: '/' :: other).take 2 =
          (scheme ++ ':' :: '/' :: '/' :: rest).take 2 := by
        rcases scheme with _ | ⟨first, _ | ⟨second, scheme⟩⟩ <;> rfl
      rw [ahead]
      split at found
      · cases found
      · rename_i unseparated
        rw [if_neg unseparated]
        cases later : splitScheme (scheme ++ ':' :: '/' :: '/' :: rest) with
        | none =>
            rw [later] at found
            cases found
        | some parts =>
            rcases parts with ⟨first, last⟩
            rw [later] at found
            cases found
            rw [induction later]
            rfl

/-- What `urlParts` returns: a text with a scheme, a host without slashes and a path that
starts with one. -/
structure UrlParts.Of (parts : UrlParts) (url : String) : Prop where
  text : url.toList = parts.text
  splits : splitScheme url.toList = some (parts.scheme, parts.host ++ parts.path)
  host : parts.host ≠ []
  slashless : ∀ character ∈ parts.host, character ≠ '/'
  path : parts.path = [] ∨ parts.path.head? = some '/'

private theorem urlParts_of {url : String} {parts : UrlParts} (found : urlParts url = some parts) :
    parts.Of url := by
  rw [urlParts] at found
  cases splits : splitScheme url.toList with
  | none =>
      rw [splits] at found
      cases found
  | some split_ =>
      rcases split_ with ⟨scheme, rest⟩
      rw [splits] at found
      dsimp only at found
      split at found
      · cases found
      · rename_i named
        cases found
        refine ⟨?_, ?_, ?_, ?_, ?_⟩
        · rw [UrlParts.text, List.takeWhile_append_dropWhile]
          exact splitScheme_eq splits
        · rw [List.takeWhile_append_dropWhile]
          exact splits
        · simpa using named
        · intro character member
          simpa using List.mem_takeWhile_imp member
        · cases left : rest.dropWhile (· ≠ '/') with
          | nil => exact .inl rfl
          | cons character path =>
              right
              have slash := List.head?_dropWhile_not (· ≠ '/') rest
              rw [left] at slash
              simp only [List.head?_cons] at slash ⊢
              simpa using slash

private theorem UrlParts.Of.urlParts {parts : UrlParts} {url : String} (of : parts.Of url) :
    urlParts url = some parts := by
  have cut : ∀ character ∈ parts.host, decide (character ≠ '/') = true := by
    simpa using of.slashless
  have stops : parts.path.takeWhile (· ≠ '/') = [] ∧
      parts.path.dropWhile (· ≠ '/') = parts.path := by
    cases path : parts.path with
    | nil => exact ⟨rfl, rfl⟩
    | cons character rest =>
        have slash := of.path
        rw [path] at slash
        simp only [List.cons_ne_nil, List.head?_cons, Option.some.injEq, false_or] at slash
        subst slash
        exact ⟨by simp, by simp⟩
  have front : (parts.host ++ parts.path).takeWhile (· ≠ '/') = parts.host := by
    rw [List.takeWhile_append_of_pos cut, stops.1, List.append_nil]
  have rear : (parts.host ++ parts.path).dropWhile (· ≠ '/') = parts.path := by
    rw [List.dropWhile_append_of_pos cut, stops.2]
  rw [IrohEndpoint.urlParts, of.splits]
  dsimp only
  rw [front, rear, if_neg (by simpa using of.host)]

/-! ## The pool's identity -/

private theorem rdropWhile_append_of_last {keep tail : List Char} (some_ : keep ≠ [])
    (last : keep.getLast some_ ≠ '/') :
    (keep ++ tail).rdropWhile (· == '/') = keep ++ tail.rdropWhile (· == '/') := by
  induction tail using List.reverseRecOn with
  | nil =>
      rw [List.append_nil, List.rdropWhile_nil, List.append_nil, List.rdropWhile_eq_self_iff]
      intro _
      simpa using last
  | append_singleton tail character induction =>
      by_cases slash : character = '/'
      · rw [← List.append_assoc, List.rdropWhile_concat_pos _ _ _ (by simp [slash]), induction,
          List.rdropWhile_concat_pos _ _ _ (by simp [slash])]
      · rw [← List.append_assoc, List.rdropWhile_concat_neg _ _ _ (by simp [slash]),
          List.rdropWhile_concat_neg _ _ _ (by simp [slash]), List.append_assoc]

private theorem UrlParts.Of.normalize {parts : UrlParts} {url : String} (of : parts.Of url) :
    normalizeRelayUrl url = String.ofList parts.trimmed.text := by
  have some_ : parts.scheme ++ ':' :: '/' :: '/' :: parts.host ≠ [] := by simp
  have last : (parts.scheme ++ ':' :: '/' :: '/' :: parts.host).getLast some_ ≠ '/' := by
    apply of.slashless
    have ends : (parts.scheme ++ ':' :: '/' :: '/' :: parts.host).getLast some_ =
        parts.host.getLast of.host := by
      rw [List.getLast_append_of_right_ne_nil _ _ (by simp), List.getLast_cons (by simp),
        List.getLast_cons (by simp), List.getLast_cons of.host]
    rw [ends]
    exact List.getLast_mem of.host
  have whole : url.toList =
      (parts.scheme ++ ':' :: '/' :: '/' :: parts.host) ++ parts.path := by
    rw [of.text]
    simp [UrlParts.text]
  rw [normalizeRelayUrl, whole, rdropWhile_append_of_last some_ last]
  simp [UrlParts.text, trimmed, trimmedPath]

private theorem UrlParts.Of.trimmed {parts : UrlParts} {url : String} (of : parts.Of url) :
    parts.trimmed.Of (normalizeRelayUrl url) := by
  have text : (normalizeRelayUrl url).toList = parts.trimmed.text := by
    rw [of.normalize, String.toList_ofList]
  refine ⟨text, ?_, of.host, of.slashless, ?_⟩
  · have splits := of.splits
    rw [of.text] at splits
    rw [text]
    exact splitScheme_swap _ splits
  · change parts.trimmedPath = [] ∨ parts.trimmedPath.head? = some '/'
    have front := List.rdropWhile_prefix (· == '/') parts.path
    cases trimmed : parts.trimmedPath with
    | nil => exact .inl rfl
    | cons character rest =>
        right
        rw [UrlParts.trimmedPath] at trimmed
        rw [trimmed] at front
        rcases front with ⟨slashes, whole⟩
        rcases of.path with empty | slash
        · rw [empty] at whole
          cases whole
        · rw [← whole] at slash
          exact slash

private theorem normalize_eq_iff {left right : String} {first second : UrlParts}
    (of : first.Of left)
    (other : second.Of right) :
    normalizeRelayUrl left = normalizeRelayUrl right ↔
      first.scheme = second.scheme ∧ first.host = second.host ∧
        first.trimmedPath = second.trimmedPath := by
  constructor
  · intro equal
    have parts := of.trimmed.urlParts
    rw [equal, other.trimmed.urlParts] at parts
    have same : second.trimmed = first.trimmed := Option.some.inj parts
    exact ⟨(congrArg UrlParts.scheme same).symm, (congrArg UrlParts.host same).symm,
      (congrArg UrlParts.path same).symm⟩
  · rintro ⟨scheme, host, path⟩
    rw [of.normalize, other.normalize]
    simp [UrlParts.text, UrlParts.trimmed, scheme, host, path]

private theorem target_eq_iff (first second : UrlParts) :
    first.target = second.target ↔ first.plain = second.plain ∧ first.host = second.host := by
  constructor
  · intro equal
    have characters := congrArg String.toList equal
    simp only [UrlParts.target, UrlParts.websocketScheme, String.toList_append,
      String.toList_ofList] at characters
    cases plain : first.plain <;> cases other : second.plain <;>
      simp [plain, other] at characters ⊢
    · exact characters
    · exact characters
  · rintro ⟨plain, host⟩
    simp [UrlParts.target, UrlParts.websocketScheme, plain, host]

/-! ## Agreement of the two forms -/

/-- Where the two URLs name one websocket endpoint, they spell its scheme and path alike. -/
def SpelledAlike (left right : String) : Prop :=
  ∀ first ∈ urlParts left, ∀ second ∈ urlParts right,
    first.host = second.host → first.plain = second.plain →
      first.scheme = second.scheme ∧ first.trimmedPath = second.trimmedPath

section Agreement

variable {left right : String} {first second : String}

private theorem relayUrl_eq_of_normalize (accepted : relayUrl left = .ok first)
    (same : normalizeRelayUrl left = normalizeRelayUrl right) : relayUrl right = .ok first := by
  rcases relayUrl_eq_ok.mp accepted with ⟨parts, found, target⟩
  have of := urlParts_of found
  -- the trimmed parts are those of the right URL's identity, so they are its own
  have trimmed := of.trimmed
  rw [same] at trimmed
  have rights : ∃ others, urlParts right = some others := by
    have splits := trimmed.splits
    have cut : ∃ slashes, right.toList = (normalizeRelayUrl right).toList ++ slashes := by
      rw [normalizeRelayUrl, String.toList_ofList]
      exact ⟨_, List.rdropWhile_append_rtakeWhile.symm⟩
    rcases cut with ⟨slashes, cut⟩
    have longer := splitScheme_eq splits
    have whole : splitScheme right.toList = some (parts.trimmed.scheme,
        parts.trimmed.host ++ parts.trimmed.path ++ slashes) := by
      rw [cut, longer, List.append_assoc, List.cons_append, List.cons_append, List.cons_append]
      rw [longer] at splits
      exact splitScheme_swap _ splits
    rw [urlParts, whole]
    dsimp only
    rw [if_neg]
    · exact ⟨_, rfl⟩
    · cases host : parts.host with
      | nil => exact absurd host of.host
      | cons character rest =>
          have named : character ≠ '/' :=
            of.slashless character (host ▸ List.mem_cons_self)
          simp [UrlParts.trimmed, host, named]
  rcases rights with ⟨others, other⟩
  rcases (normalize_eq_iff of (urlParts_of other)).mp same with ⟨scheme, host, _⟩
  rw [relayUrl_eq_ok]
  refine ⟨others, other, ?_⟩
  rw [← target, target_eq_iff, UrlParts.plain, UrlParts.plain, scheme, host]
  exact ⟨rfl, rfl⟩

private theorem relayUrl_eq_iff (accepted : relayUrl left = .ok first)
    (also : relayUrl right = .ok second)
    (alike : SpelledAlike left right) :
    normalizeRelayUrl left = normalizeRelayUrl right ↔ relayUrl left = relayUrl right := by
  constructor
  · intro same
    rw [relayUrl_eq_of_normalize accepted same, accepted]
  · intro same
    rcases relayUrl_eq_ok.mp accepted with ⟨parts, found, target⟩
    rcases relayUrl_eq_ok.mp also with ⟨others, other, rival⟩
    have targets : parts.target = others.target := by
      rw [target, rival]
      rw [accepted, also] at same
      exact Except.ok.inj same
    rcases (target_eq_iff parts others).mp targets with ⟨plain, host⟩
    rcases alike parts found others other host plain with ⟨scheme, path⟩
    exact (normalize_eq_iff (urlParts_of found) (urlParts_of other)).mpr ⟨scheme, host, path⟩

end Agreement

private theorem relayUrl_of_toOption {url target : String}
    (opened : (relayUrl url).toOption = some target) : relayUrl url = .ok target := by
  cases answer : relayUrl url with
  | error detail =>
      rw [answer] at opened
      cases opened
  | ok text =>
      rw [answer] at opened
      cases opened
      rfl

/-- The pool's identity and the websocket endpoint induce the same equality on two accepted
URLs exactly when they do not spell one endpoint with different schemes or paths. One
identity always has one endpoint; and in every run the registered relays have distinct
endpoints as long as no two of their URLs are spelled apart. -/
theorem pool_identity_agrees_iff {left right first second : String}
    (accepted : relayUrl left = .ok first) (also : relayUrl right = .ok second) :
    ((normalizeRelayUrl left = normalizeRelayUrl right ↔ relayUrl left = relayUrl right) ↔
      SpelledAlike left right) ∧
    ∀ (P : Platform) (config : Config P) (log : Failures),
      (opening P).Reachable (config, log) →
      (∀ url target key, relayUrl url = .ok target →
        config.state.relayKeys.get? (normalizeRelayUrl url) = some key →
        ∃ relay ∈ config.state.history.relays,
          relay.1 = key ∧ relayUrl relay.2.server = .ok target) ∧
      ((∀ left ∈ config.state.history.relays, ∀ right ∈ config.state.history.relays,
          SpelledAlike left.2.server right.2.server) →
        (config.state.history.relays.filterMap fun relay =>
          (relayUrl relay.2.server).toOption).Nodup) := by
  refine ⟨⟨?_, relayUrl_eq_iff accepted also⟩, ?_⟩
  · intro agree parts found others other host plain
    have targets := (target_eq_iff parts others).mpr ⟨plain, host⟩
    have urls : relayUrl left = relayUrl right := by
      rw [relayUrl_eq_ok.mpr ⟨parts, found, rfl⟩, relayUrl_eq_ok.mpr ⟨others, other, rfl⟩, targets]
    rcases (normalize_eq_iff (urlParts_of found) (urlParts_of other)).mp (agree.mpr urls) with
      ⟨scheme, _, path⟩
    exact ⟨scheme, path⟩
  · intro P config log reached
    have named := (opening_opens reached).2.named
    refine ⟨?_, ?_⟩
    · intro url target key accepted known
      rcases (named.known _ _).mp known with ⟨relay, member, keyed, same⟩
      exact ⟨relay, member, keyed, relayUrl_eq_of_normalize accepted same.symm⟩
    · intro alike
      have distinct := named.distinct
      rw [List.Nodup, List.pairwise_map] at distinct
      rw [List.Nodup, List.pairwise_filterMap]
      refine distinct.imp_of_mem ?_
      intro first second member other apart target opened rival reopened same
      have accepted := relayUrl_of_toOption opened
      have also := relayUrl_of_toOption reopened
      apply apart
      apply (relayUrl_eq_iff accepted also (alike first member second other)).mpr
      rw [accepted, also, same]

/-- A trailing slash is no other spelling. -/
theorem pool_identity_agrees_slash :
    normalizeRelayUrl "https://relay.example/" = normalizeRelayUrl "https://relay.example" ↔
      relayUrl "https://relay.example/" = relayUrl "https://relay.example" := by
  apply (@pool_identity_agrees_iff _ _ "wss://relay.example/relay" "wss://relay.example/relay"
    (by decide) (by decide)).1.mpr
  have left : urlParts "https://relay.example/" =
      some ⟨"https".toList, "relay.example".toList, ['/']⟩ := by decide
  have right : urlParts "https://relay.example" =
      some ⟨"https".toList, "relay.example".toList, []⟩ := by decide
  intro first found second other _ _
  rw [left] at found
  rw [right] at other
  cases found
  cases other
  exact ⟨rfl, by decide⟩

/-- The `ws` and `http` spellings of a relay, and another path on its host, are one
websocket endpoint under several identities. -/
theorem pool_identities_of_one_endpoint :
    relayUrl "ws://relay.example" = .ok "ws://relay.example/relay" ∧
    relayUrl "http://relay.example" = .ok "ws://relay.example/relay" ∧
    relayUrl "http://relay.example/eu" = .ok "ws://relay.example/relay" ∧
    normalizeRelayUrl "ws://relay.example" ≠ normalizeRelayUrl "http://relay.example" ∧
    normalizeRelayUrl "http://relay.example/eu" ≠ normalizeRelayUrl "http://relay.example" := by
  decide

end IrohEndpoint
