import Fanout.Generation.Apply
import Fanout.Generation.Contribution

/-!
# Catalog of capabilities

The capabilities that the planner knows.  Each is a list of contributions, which
may depend on the identity of the module it is applied to.

## Main definitions

* `CatalogEntry` — a capability with a description.
* `Catalog.entries` — all of them.
* `Catalog.coordinates` — the artifacts that they look up.
* `Catalog.behave` — what applying one does.
-/

namespace Fanout

/-- What a capability of the catalog contributes to a module. -/
abbrev CatalogEffect := Project → List Contribution

/-- **Entry of the catalog.** -/
structure CatalogEntry where
  capability : Capability CatalogEffect
  description : String

namespace Catalog

open Contribution

/-- A value in the application configuration. -/
def configured (path : String) (value : Setting) : Contribution :=
  setting .application none path value

/-- A value in the overlay for an environment. -/
def configuredFor (environment path : String) (value : Setting) : Contribution :=
  setting .application (some environment) path value

/-- A dependency whose coordinate is looked up. -/
def needed (artifact : String) (scope : DependencyScope := .compile) : Contribution :=
  dependency (.lookup artifact scope)

/-- A text as a file. -/
def textFile (key path text : String) : Contribution :=
  template key (.new .default path (.text text))

/-- **The capabilities of the catalog.** -/
def entries : List CatalogEntry := [
  { description := "Application identity"
    capability :=
      { name := "app-name"
        order := -100
        roles := { application := true, default := true }
        effect := fun project =>
          [configured "micronaut.application.name" (.string project.name)] } },
  { description := "Gradle build files"
    capability :=
      { name := "gradle"
        order := -50
        roles := { build := true, default := true }
        effect := fun _ =>
          [textFile "build" "build.gradle" "plugins \x7b\n\x7d\n",
            template "gradlew" (.new .root "gradlew" (.resource "gradle/gradlew") true)] } },
  { description := "Micronaut application plugin"
    capability :=
      { name := "micronaut-build"
        roles := { buildPlugin := true, default := true }
        effect := fun _ =>
          [plugin (.gradle Plugin.applicationId none (some "micronaut-gradle-plugin")),
            plugin (.gradle Plugin.shadowId (some "8.1.1") none)] } },
  { description := "Logback logging configuration"
    capability :=
      { name := "logback"
        roles := { default := true }
        effect := fun _ =>
          [needed "logback-classic" .runtime,
            textFile "loggingConfig" "src/main/resources/logback.xml" "<configuration/>\n"] } },
  { description := "Test resources service"
    capability :=
      { name := "test-resources"
        roles := { sharedService := true }
        effect := fun _ =>
          [configuredFor Configuration.testName "test-resources.enabled" (.bool true)] } },
  { description := "Authentication and authorization"
    capability :=
      { name := "security"
        effect := fun _ =>
          [needed "micronaut-security-jwt",
            configured "micronaut.security.authentication" (.string "bearer")] } },
  { description := "Kafka messaging"
    capability :=
      { name := "kafka"
        effect := fun _ =>
          [needed "micronaut-kafka",
            configured "kafka.bootstrap.servers" (.string "localhost:9092"),
            configuredFor Configuration.testName "kafka.enabled" (.bool false)] } },
  { description := "PostgreSQL driver"
    capability :=
      { name := "postgres"
        roles := { databaseDriver := true }
        effect := fun _ =>
          [needed "postgresql" .runtime,
            configured "datasources.default.db-type" (.string "postgres")] } },
  { description := "CloudWatch metrics"
    capability :=
      { name := "aws-metrics"
        target? := some .aws
        effect := fun _ =>
          [needed "micronaut-aws-cloudwatch-logging",
            configured "micronaut.metrics.export.cloudwatch.enabled" (.bool true)] } },
  { description := "Kubernetes manifest for EKS"
    capability :=
      { name := "aws-k8s"
        target? := some .aws
        effect := fun project =>
          [textFile clusterManifestKey "k8s.yml"
            ("apiVersion: apps/v1\nkind: Deployment\nmetadata:\n  name: " ++ project.name
              ++ "\n")] } },
  { description := "Lambda runtime support"
    capability :=
      { name := "aws-lambda"
        gate? := some .aws
        roles := { default := true }
        effect := fun _ => [needed "micronaut-function-aws"] } },
  { description := "Azure Functions support"
    capability :=
      { name := "azure-function"
        target? := some .azure
        effect := fun _ =>
          [needed "micronaut-azure-function-http",
            plugin (.gradle Plugin.azureFunctionsId (some "1.11.0") none),
            configuredFor Configuration.functionName "azure.function.enabled" (.bool false)] } },
  { description := "Pub/Sub messaging"
    capability :=
      { name := "gcp-streaming"
        target? := some .gcp
        effect := fun _ =>
          [needed "micronaut-gcp-pubsub",
            setting .bootstrap none "gcp.project-id" (.string "my-project")] } },
  { description := "Application performance monitoring"
    capability :=
      { name := "oci-tracing"
        target? := some .oci
        roles := { eagerSingleton := true }
        effect := fun _ =>
          [needed "micronaut-tracing-zipkin",
            configured "tracing.zipkin.enabled" (.bool true),
            configuredFor Configuration.developmentName "tracing.zipkin.enabled"
              (.bool false)] } }]

/-- The capabilities of the catalog. -/
def capabilities : List (Capability CatalogEffect) := entries.map CatalogEntry.capability

/-- **Coordinates of the artifacts that the catalog looks up.**  A manifest may
give others. -/
def coordinates : CoordinateTable where
  entries := .ofList [
    ("micronaut-gradle-plugin", ⟨"io.micronaut.gradle", "micronaut-gradle-plugin", "4.0.3"⟩),
    ("logback-classic", ⟨"ch.qos.logback", "logback-classic", "1.4.11"⟩),
    ("micronaut-security-jwt", ⟨"io.micronaut.security", "micronaut-security-jwt", "4.0.2"⟩),
    ("micronaut-kafka", ⟨"io.micronaut.kafka", "micronaut-kafka", "5.0.0"⟩),
    ("postgresql", ⟨"org.postgresql", "postgresql", "42.6.0"⟩),
    ("micronaut-aws-cloudwatch-logging",
      ⟨"io.micronaut.aws", "micronaut-aws-cloudwatch-logging", "4.0.0"⟩),
    ("micronaut-function-aws", ⟨"io.micronaut.aws", "micronaut-function-aws", "4.0.0"⟩),
    ("micronaut-azure-function-http",
      ⟨"io.micronaut.azure", "micronaut-azure-function-http", "5.0.0"⟩),
    ("micronaut-gcp-pubsub", ⟨"io.micronaut.gcp", "micronaut-gcp-pubsub", "5.0.0"⟩),
    ("micronaut-tracing-zipkin", ⟨"io.micronaut.tracing", "micronaut-tracing-zipkin", "6.0.0"⟩)]

/-- **What applying a capability of the catalog does**: its contributions to the
module of the target, up to the first that fails. -/
def behave : Behaviour CatalogEffect Unit := fun c t g =>
  let result := makeAll t (c.effect (g.projects.get t)) g
  (result.1, (), result.2)

end Catalog

end Fanout
