/-
  CodeAudit.Report.Topic
  ──────────────────────
  **WHAT A REPORT SPEAKS ABOUT.**

  A topic is raised when a metric passes its bound (`Gate`).  This module
  holds the bounds and the texts: topics of security and of quality, the
  measures to take, and the phases of the plan of action.
-/
import CodeAudit.Audit.Metrics

namespace CodeAudit.Report

open CodeAudit.Data CodeAudit.Audit

/-! ## §1. Gates. -/

/-- A metric and the bound that it has to pass. -/
structure Gate where
  key : String
  bound : Int
  deriving DecidableEq, Repr

/-- The value of the metric of a gate. -/
def Gate.value (g : Gate) (metrics : Value) : Except Failure Value := metrics.field g.key

/-- Whether the metric passes the bound. -/
def Gate.opens (g : Gate) (metrics : Value) : Except Failure Bool := do
  let v ← g.value metrics
  v.above g.bound

/-- A counter that is not zero. -/
def Gate.nonzero (c : Counter) : Gate := ⟨c.key, 0⟩

/-- The elements of a list whose gates open, in order. -/
def opened {α : Type} (gate : α → Gate) (metrics : Value) (all : List α) :
    Except Failure (List α) :=
  all.filterM fun a => (gate a).opens metrics

/-- Texts as a value. -/
def texts (lines : List String) : Value := .list (lines.map .text)

/-! ## §2. Topics. -/

/-- How a topic shows the value of its metric. -/
inductive Amount where
  /-- As a number of occurrences. -/
  | count
  /-- As it is. -/
  | value
  /-- As an average number of lines. -/
  | lines
  /-- Not at all. -/
  | hidden
  deriving DecidableEq, Repr

/-- The entry by which a topic shows a value. -/
def Amount.entry (v : Value) : Amount → Dict
  | .count => [("count", v)]
  | .value => [("value", v)]
  | .lines => [("value", .text (v.display ++ " lignes en moyenne"))]
  | .hidden => []

/-- A topic. -/
structure Topic where
  gate : Gate
  amount : Amount
  category : String
  issue : String
  severity : String
  description : String
  recommendations : List String
  resources : List String

/-- A topic as an entry of a report, with the value of its metric. -/
def Topic.toValue (t : Topic) (v : Value) : Value :=
  .dict ([("category", .text t.category), ("issue", .text t.issue)] ++ t.amount.entry v
    ++ [("severity", .text t.severity), ("description", .text t.description),
        ("recommendations", texts t.recommendations), ("resources", texts t.resources)])

/-- The topics of a list that are raised, as entries of a report. -/
def raised (topics : List Topic) (metrics : Value) : Except Failure (List Value) := do
  let raised ← opened Topic.gate metrics topics
  raised.mapM fun t => (t.gate.value metrics).map t.toValue

/-! ## §3. Security. -/

namespace Topic

/-- Queries built from variable parts. -/
def sqlInjection : Topic where
  gate := .nonzero .sqlInjections
  amount := .count
  category := "Sécurité"
  issue := "Injection SQL"
  severity := "Critical"
  description :=
    "Les injections SQL permettent à des attaquants d'exécuter des commandes SQL malveillantes sur votre base de données."
  recommendations :=
    ["Utilisez toujours des requêtes paramétrées ou un ORM comme Django ORM ou SQLAlchemy.",
     "Évitez de concaténer directement des entrées utilisateur dans des requêtes SQL.",
     "Implémentez le principe du moindre privilège pour les accès base de données."]
  resources :=
    ["OWASP SQL Injection: https://owasp.org/www-community/attacks/SQL_Injection",
     "Django Database Security: https://docs.djangoproject.com/en/stable/topics/security/#sql-injection-protection"]

/-- Scripts injected into pages; whether they are counted is left open. -/
def crossSiteScripting (amount : Amount) : Topic where
  gate := .nonzero .crossSiteScripting
  amount := amount
  category := "Sécurité"
  issue := "Cross-Site Scripting (XSS)"
  severity := "High"
  description :=
    "Les vulnérabilités XSS permettent à des attaquants d'injecter du code JavaScript malveillant qui sera exécuté dans le navigateur des utilisateurs."
  recommendations :=
    ["Échappez toujours les données non fiables avec les filtres appropriés (escape, safe, etc.).",
     "Utilisez le système de templates qui échappe automatiquement les variables.",
     "Implémentez une politique de sécurité de contenu (CSP) pour limiter l'exécution de scripts."]
  resources :=
    ["OWASP XSS: https://owasp.org/www-community/attacks/xss/",
     "Django XSS Protection: https://docs.djangoproject.com/en/stable/topics/security/#cross-site-scripting-xss-protection"]

/-- Secrets in the source. -/
def sensitiveData : Topic where
  gate := .nonzero .sensitiveVariables
  amount := .count
  category := "Sécurité"
  issue := "Exposition de données sensibles"
  severity := "High"
  description :=
    "Des variables contenant des informations sensibles (mots de passe, clés API) sont codées en dur dans le code source."
  recommendations :=
    ["Utilisez des variables d'environnement pour stocker les informations sensibles.",
     "Considérez l'utilisation d'un gestionnaire de secrets comme HashiCorp Vault ou AWS Secrets Manager.",
     "Ne jamais commettre de secrets dans le contrôle de version (ajoutez-les à .gitignore)."]
  resources :=
    ["Django Secret Key Management: https://docs.djangoproject.com/en/stable/topics/settings/#secret-key",
     "12 Factor App Config: https://12factor.net/config"]

/-- State changes that a forged request can cause. -/
def forgedRequests : Topic where
  gate := .nonzero .tokenProtection
  amount := .count
  category := "Sécurité"
  issue := "Protection CSRF manquante"
  severity := "High"
  description :=
    "Des endpoints modifiant l'état ne sont pas protégés contre les attaques CSRF (Cross-Site Request Forgery)."
  recommendations :=
    ["Ajoutez le décorateur @csrf_protect à toutes les vues qui modifient l'état.",
     "Pour les API REST, utilisez des tokens CSRF ou envisagez d'autres mécanismes d'authentification.",
     "Vérifiez que le middleware CSRF est activé dans les paramètres Django."]
  resources :=
    ["Django CSRF Protection: https://docs.djangoproject.com/en/stable/ref/csrf/",
     "OWASP CSRF: https://owasp.org/www-community/attacks/csrf"]

/-- Dependencies with known holes. -/
def dependencies : Topic where
  gate := .nonzero .vulnerableDependencies
  amount := .count
  category := "Dépendances"
  issue := "Dépendances vulnérables"
  severity := "Critical"
  description :=
    "Certaines dépendances utilisées contiennent des vulnérabilités connues qui pourraient être exploitées."
  recommendations :=
    ["Mettez à jour immédiatement les dépendances vulnérables vers leurs dernières versions stables.",
     "Utilisez des outils comme safety ou dependabot pour surveiller les vulnérabilités.",
     "Revoyez régulièrement vos dépendances et supprimez celles qui ne sont pas utilisées."]
  resources :=
    ["PyUp Safety: https://pyup.io/safety/",
     "Django Security Releases: https://www.djangoproject.com/weblog/"]

/-- The topics of security.  Scripts are counted or not as `scripting` says. -/
def security (scripting : Amount) : List Topic :=
  [.sqlInjection, .crossSiteScripting scripting, .sensitiveData, .forgedRequests, .dependencies]

end Topic

/-! ## §4. Quality. -/

namespace Topic

/-- Too many paths through the code. -/
def complexity : Topic where
  gate := ⟨Counter.cyclomatic.key, 50⟩
  amount := .value
  category := "Qualité"
  issue := "Complexité cyclomatique élevée"
  severity := "High"
  description :=
    "Une complexité cyclomatique élevée indique un code difficile à maintenir et à tester, avec de nombreux chemins d'exécution possibles."
  recommendations :=
    ["Refactorisez les fonctions les plus complexes (score > 15) en les divisant en sous-fonctions.",
     "Appliquez le principe de responsabilité unique - chaque fonction devrait faire une seule chose.",
     "Considérez l'utilisation de design patterns pour simplifier la logique complexe."]
  resources :=
    ["Refactoring Guru: https://refactoring.guru/",
     "Cyclomatic Complexity: https://en.wikipedia.org/wiki/Cyclomatic_complexity"]

/-- Functions that are too long. -/
def longFunctions : Topic where
  gate := ⟨averageLinesKey, 20⟩
  amount := .lines
  category := "Qualité"
  issue := "Fonctions trop longues"
  severity := "Medium"
  description :=
    "Les fonctions longues sont difficiles à comprendre, tester et maintenir. La règle générale est de ne pas dépasser 20 lignes par fonction."
  recommendations :=
    ["Divisez les fonctions longues en plusieurs petites fonctions avec des responsabilités claires.",
     "Extrayez les blocs logiques en méthodes séparées.",
     "Utilisez des fonctions d'ordre supérieur pour simplifier les flux complexes."]
  resources :=
    ["Clean Code Functions: https://github.com/zedr/clean-code-python#functions",
     "Refactoring Long Methods: https://refactoring.com/catalog/extractMethod.html"]

/-- Violations of the style guide. -/
def style : Topic where
  gate := ⟨Counter.lint.key, 20⟩
  amount := .value
  category := "Qualité"
  issue := "Violations de style de code"
  severity := "Medium"
  description :=
    "De nombreuses violations des conventions PEP 8 rendent le code moins lisible et plus difficile à maintenir."
  recommendations :=
    ["Utilisez un formateur de code comme black ou autopep8 pour corriger automatiquement les problèmes de style.",
     "Configurez votre IDE pour vérifier le style de code en temps réel.",
     "Mettez en place des hooks git pour vérifier le style avant les commits."]
  resources :=
    ["PEP 8 Style Guide: https://peps.python.org/pep-0008/",
     "Black Formatter: https://github.com/psf/black"]

/-- Hierarchies that are too deep. -/
def inheritance : Topic where
  gate := ⟨depthKey, 3⟩
  amount := .value
  category := "Design"
  issue := "Profondeur d'héritage excessive"
  severity := "Medium"
  description :=
    "Une hiérarchie d'héritage profonde rend le code rigide et difficile à modifier. La composition est souvent préférable à l'héritage."
  recommendations :=
    ["Remplacez l'héritage par la composition lorsque possible.",
     "Limitez la profondeur d'héritage à 2-3 niveaux maximum.",
     "Considérez l'utilisation de mixins pour le partage de fonctionnalités."]
  resources :=
    ["Composition over Inheritance: https://en.wikipedia.org/wiki/Composition_over_inheritance",
     "Python Mixins: https://stackoverflow.com/questions/533631/what-is-a-mixin-and-why-are-they-useful"]

/-- The topics of quality. -/
def quality : List Topic :=
  [.complexity, .longFunctions, .style, .inheritance]

end Topic

/-! ## §5. Measures. -/

/-- A measure to take. -/
structure Measure where
  gate : Gate
  category : String
  priority : String
  action : String
  steps : List String
  time : String

/-- A measure as an entry of a report. -/
def Measure.toValue (m : Measure) : Value :=
  .dict [("category", .text m.category), ("priority", .text m.priority), ("action", .text m.action),
    ("steps", texts m.steps), ("estimated_time", .text m.time)]

namespace Measure

/-- Parameterise queries. -/
def parameterise : Measure where
  gate := .nonzero .sqlInjections
  category := "Sécurité"
  priority := "Critical"
  action := "Corriger les injections SQL potentielles"
  steps :=
    ["Identifier toutes les requêtes SQL construites dynamiquement",
     "Remplacer par des requêtes paramétrées ou utiliser l'ORM",
     "Tester les corrections avec des entrées malveillantes simulées"]
  time := "2-4 heures par occurrence"

/-- Escape what pages show. -/
def escape : Measure where
  gate := .nonzero .crossSiteScripting
  category := "Sécurité"
  priority := "High"
  action := "Protéger contre les attaques XSS"
  steps :=
    ["Échapper systématiquement les données utilisateur dans les templates",
     "Utiliser mark_safe uniquement lorsque nécessaire et avec validation",
     "Implémenter une politique de sécurité de contenu (CSP)"]
  time := "1-2 heures par occurrence"

/-- Simplify complex functions. -/
def simplify : Measure where
  gate := ⟨Counter.cyclomatic.key, 50⟩
  category := "Qualité"
  priority := "High"
  action := "Réduire la complexité cyclomatique"
  steps :=
    ["Identifier les fonctions avec une complexité > 15",
     "Refactoriser en petites fonctions avec une seule responsabilité",
     "Utiliser des design patterns comme Stratégie ou État pour les logiques complexes"]
  time := "30 minutes par fonction"

/-- Conform to the style guide. -/
def conform : Measure where
  gate := ⟨Counter.lint.key, 20⟩
  category := "Qualité"
  priority := "Medium"
  action := "Améliorer la conformité PEP 8"
  steps :=
    ["Exécuter black ou autopep8 sur le codebase",
     "Configurer le linting dans le CI/CD",
     "Former l'équipe aux standards PEP 8"]
  time := "2-4 heures pour l'ensemble du projet"

/-- All measures. -/
def all : List Measure := [.parameterise, .escape, .simplify, .conform]

end Measure

/-! ## §6. Phases. -/

/-- A phase of the plan of action. -/
structure Phase where
  phase : String
  actions : List String
  owner : String
  timeline : String

/-- A phase as an entry of a report. -/
def Phase.toValue (p : Phase) : Value :=
  .dict [("phase", .text p.phase), ("actions", texts p.actions), ("owner", .text p.owner),
    ("timeline", .text p.timeline)]

namespace Phase

/-- What has to be done at once. -/
def immediate : Phase where
  phase := "Immédiat"
  actions :=
    ["Corriger toutes les injections SQL potentielles",
     "Échapper les sorties pour prévenir les XSS",
     "Mettre à jour les dépendances vulnérables"]
  owner := "Lead Developer"
  timeline := "1-3 jours"

/-- What has to be done soon. -/
def soon : Phase where
  phase := "Court terme"
  actions :=
    ["Sécuriser les variables sensibles (variables d'environnement)",
     "Implémenter les protections CSRF manquantes",
     "Refactoriser les fonctions trop complexes"]
  owner := "Équipe de développement"
  timeline := "1-2 semaines"

/-- What has to be done all the time. -/
def lasting : Phase where
  phase := "Long terme"
  actions :=
    ["Mettre en place des revues de code systématiques",
     "Automatiser les tests de sécurité",
     "Améliorer la couverture de tests"]
  owner := "Équipe entière"
  timeline := "Continue"

end Phase

end CodeAudit.Report
