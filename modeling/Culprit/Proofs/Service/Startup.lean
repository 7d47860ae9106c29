import Culprit.Startup

/-!
# What it takes to start

The command and the server start in the same way: the settings are loaded, then the service is
built. All errors of building it are explained to the user but two: a command that cannot be cut
into words fails with the failure of the reader itself, a client that cannot be opened with an
exception of its own, and no front end expects either. The lemmas say which settings lead there,
and that all others end in a service or in an error that is explained.
-/

namespace Culprit

/-! ### Building the service -/

theorem Command.eq_of_readWords_eq_error {state : WordState} {word text : Text} {failure : Failure}
    (h : readWords state word text = .error failure) :
    failure = .unclosedQuotation ∨ failure = .danglingEscape := by
  fun_induction readWords state word text with
  | case1 => cases h
  | case2 => cases h
  | case3 => exact .inl (Except.error.inj h).symm
  | case4 => exact .inr (Except.error.inj h).symm
  -- A word ends, and only the rest can still be wrong.
  | case9 word c rest hblank ih =>
    cases hrest : readWords .between [] rest with
    | error inner =>
      rw [hrest] at h ih
      exact ih h
    | ok words =>
      rw [hrest] at h
      cases h
  | _ =>
    rename_i ih
    exact ih h

theorem Command.oracle?_text {σ : Type} (run : Runner σ) {text : Text} (hne : text ≠ [])
    (limit : Number.Seconds) :
    oracle? run (some (.text text)) limit =
      (words text).map fun words => oracle run ⟨words, limit⟩ := by
  cases text with
  | nil => exact absurd rfl hne
  | cons c rest => rfl

theorem Command.eq_of_oracle?_eq_error {σ : Type} {run : Runner σ} {command : Option Text}
    {limit : Number.Seconds} {failure : Failure}
    (h : oracle? run (command.map .text) limit = .error failure) :
    failure = .noVerdict .missingCommand ∨
      ∃ text, command = some text ∧ words text = .error failure := by
  cases command with
  | none =>
    cases h
    exact .inl rfl
  | some text =>
    by_cases hnil : text = []
    · subst hnil
      cases h
      exact .inl rfl
    · rw [Option.map_some, oracle?_text run hnil] at h
      cases hwords : words text with
      | error other =>
        rw [hwords] at h
        cases h
        exact .inr ⟨text, rfl, hwords⟩
      | ok words =>
        rw [hwords] at h
        cases h

theorem Http.requiredUrl_eq_ok_iff {url : Option Text} {given : Text} :
    requiredUrl url = .ok given ↔ url = some given ∧ given ≠ [] := by
  rcases url with _ | _ | ⟨c, rest⟩ <;> simp [requiredUrl]
  rintro rfl
  exact List.cons_ne_nil c rest

theorem Http.eq_of_requiredUrl_eq_error {url : Option Text} {failure : Failure}
    (h : requiredUrl url = .error failure) : failure = .noVerdict .missingUrl := by
  rcases url with _ | _ | ⟨c, rest⟩
  · exact (Except.error.inj h).symm
  · exact (Except.error.inj h).symm
  · cases h

theorem OracleKind.ofName?_eq_some_iff {wanted : String} {kind : OracleKind} :
    ofName? wanted = some kind ↔ wanted = kind.name := by
  constructor
  · intro h
    have hfound := List.find?_some h
    exact (beq_iff_eq.mp hfound).symm
  · rintro rfl
    exact ofName?_name kind

section

variable {τ : Type} {surroundings : Surroundings τ} {settings : Settings}

/-- The verifier that is configured cannot be set up, and nobody explains why: the command cannot be
cut into words, or no client can be opened for the URL. -/
inductive Settings.HasBrokenOracle (surroundings : Surroundings τ) (settings : Settings) : Prop
  | command {text : Text} {failure : Failure} (hname : settings.oracle = OracleKind.command.name)
      (htext : settings.oracleCommand = some text) (hwords : Command.words text = .error failure)
  | client {url : Text} {exception : Exception} (hname : settings.oracle = OracleKind.http.name)
      (hurl : settings.oracleUrl = some url) (hne : url ≠ [])
      (hopen : surroundings.openClient (.fraction settings.oracleTimeout) = .error exception)

theorem Settings.buildOracle_of_kind {kind : OracleKind} (hname : settings.oracle = kind.name) :
    settings.buildOracle surroundings = kind.build surroundings settings.oracleOptions := by
  rw [buildOracle, Oracle.named, OracleKind.ofName?_eq_some_iff.mpr hname]

theorem Settings.buildOracle_of_hasBrokenOracle (h : settings.HasBrokenOracle surroundings) :
    ∃ error, settings.buildOracle surroundings = .error error ∧ error.explanation? = none := by
  cases h with
  | @command text failure hname htext hwords =>
    have hne : text ≠ [] := by
      rintro rfl
      cases hwords
    have horacle : settings.buildOracle surroundings = .error (.failed failure) := by
      rw [buildOracle_of_kind hname]
      simp only [OracleKind.build, oracleOptions, htext, Option.map_some,
        Command.oracle?_text _ hne, hwords]
      rfl
    refine ⟨.failed failure, horacle, ?_⟩
    rcases Command.eq_of_readWords_eq_error hwords with rfl | rfl <;> rfl
  | @client url exception hname hurl hne hopen =>
    have hrequired : Http.requiredUrl settings.oracleUrl = .ok url :=
      Http.requiredUrl_eq_ok_iff.mpr ⟨hurl, hne⟩
    refine ⟨.noClient exception, ?_, rfl⟩
    rw [buildOracle_of_kind hname]
    simp only [OracleKind.build, oracleOptions, hrequired, hopen]
    rfl

theorem Settings.hasBrokenOracle_of_buildOracle {error : SetupError}
    (herror : settings.buildOracle surroundings = .error error)
    (hunexplained : error.explanation? = none) : settings.HasBrokenOracle surroundings := by
  cases hkind : OracleKind.ofName? settings.oracle with
  | none =>
    rw [buildOracle, Oracle.named, hkind] at herror
    cases herror
    cases hunexplained
  | some kind =>
    have hname := OracleKind.ofName?_eq_some_iff.mp hkind
    rw [buildOracle_of_kind hname] at herror
    cases kind with
    | lexical => cases herror
    | http =>
      simp only [OracleKind.build, oracleOptions] at herror
      cases hrequired : Http.requiredUrl settings.oracleUrl with
      | error failure =>
        obtain rfl := Http.eq_of_requiredUrl_eq_error hrequired
        simp only [hrequired] at herror
        cases herror
        cases hunexplained
      | ok url =>
        obtain ⟨hurl, hne⟩ := Http.requiredUrl_eq_ok_iff.mp hrequired
        cases hopen : surroundings.openClient (.fraction settings.oracleTimeout) with
        | error exception => exact .client hname hurl hne hopen
        | ok client =>
          simp only [hrequired, hopen] at herror
          cases herror
    | command =>
      simp only [OracleKind.build, oracleOptions] at herror
      cases hmade : Command.oracle? surroundings.run (settings.oracleCommand.map .text)
          (.fraction settings.oracleTimeout) with
      | error failure =>
        rw [hmade] at herror
        cases herror
        rcases Command.eq_of_oracle?_eq_error hmade with rfl | ⟨text, htext, hwords⟩
        · cases hunexplained
        · exact .command hname htext hwords
      | ok oracle =>
        rw [hmade] at herror
        cases herror

/-- A service is not built for a reason that nobody explains exactly if its verifier is broken. -/
theorem Settings.hasBrokenOracle_iff :
    settings.HasBrokenOracle surroundings ↔
      ∃ error, settings.buildService surroundings = .error error ∧ error.explanation? = none := by
  constructor
  · intro h
    obtain ⟨error, horacle, hunexplained⟩ := buildOracle_of_hasBrokenOracle h
    exact ⟨error, by rw [buildService, horacle]; rfl, hunexplained⟩
  · rintro ⟨error, herror, hunexplained⟩
    cases horacle : settings.buildOracle surroundings with
    | error other =>
      rw [buildService, horacle] at herror
      cases herror
      exact hasBrokenOracle_of_buildOracle horacle hunexplained
    | ok oracle =>
      rw [buildService, horacle] at herror
      cases hcompletion : Completion.ofName? settings.completer with
      | none =>
        simp only [hcompletion] at herror
        cases herror
        cases hunexplained
      | some completion =>
        simp only [hcompletion] at herror
        cases herror

end

/-! ### Loading the settings -/

namespace Settings.Loader

variable {load : Settings.Loader} {values : List (Text × Text)} {settings : Settings}

theorem start_of_load (hload : load values = .ok settings) :
    load.start values =
      ((Log.threshold settings.logLevel).mapError .unknownLevel).map (settings, ·) := by
  rw [start, hload]
  change ((Log.threshold settings.logLevel).mapError StartError.unknownLevel >>= fun threshold =>
    Except.ok (settings, threshold)) = _
  cases (Log.threshold settings.logLevel).mapError StartError.unknownLevel <;> rfl

end Settings.Loader
end Culprit
