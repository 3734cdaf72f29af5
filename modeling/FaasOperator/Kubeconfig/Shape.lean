/-
# `FaasOperator.Kubeconfig.Shape` — the shape of a kubeconfig file

Much of what a file says is only looked at for its shape: credentials, extensions and the settings
of other programs have to be there in the right form, and are not used.
-/
import FaasOperator.Yaml.Shape

namespace FaasOperator.Kubeconfig

open Yaml Yaml.Shape

/-- Settings of other programs. -/
def extensionsShape : Shape :=
  .list (.record "NamedExtension" [required .text "name", required .any "extension"])

/-- Settings of a user interface. -/
def preferencesShape : Shape :=
  .record "Preferences" (optional .flag ["colors"] ++ optional extensionsShape ["extensions"])

def clusterShape : Shape :=
  .record "Cluster"
    (optional .text ["server", "certificate-authority", "certificate-authority-data", "proxy-url",
      "tls-server-name"] ++
    optional .flag ["insecure-skip-tls-verify", "disable-compression"] ++
    optional extensionsShape ["extensions"])

def contextShape : Shape :=
  .record "Context"
    (required .text "cluster" :: optional .text ["user", "namespace"] ++
    optional extensionsShape ["extensions"])

/-- A program that gives credentials. -/
def execShape : Shape :=
  .record "ExecConfig"
    (optional .text ["apiVersion", "command"] ++ optional (.list .text) ["args"] ++
    optional (.list (.map .text)) ["env"] ++
    optional (.choice ["Never", "IfAvailable", "Always"]) ["interactiveMode"] ++
    [omissible .flag "provideClusterInfo"])

/-- A service that gives credentials. -/
def authProviderShape : Shape :=
  .record "AuthProviderConfig" [required .text "name", omissible (.map .text) "config"]

def userShape : Shape :=
  .record "AuthInfo"
    (optional .text ["username", "password", "token", "tokenFile", "client-certificate",
      "client-certificate-data", "client-key", "client-key-data", "as"] ++
    optional (.list .text) ["as-groups"] ++ optional authProviderShape ["auth-provider"] ++
    optional execShape ["exec"])

def namedShape (kind key : String) (shape : Shape) : Shape :=
  .list (.record kind (required .text "name" :: optional shape [key]))

def shape : Shape :=
  .record "Kubeconfig"
    (optional preferencesShape ["preferences"] ++
    optional (namedShape "NamedCluster" "cluster" clusterShape) ["clusters"] ++
    optional (namedShape "NamedAuthInfo" "user" userShape) ["users"] ++
    optional (namedShape "NamedContext" "context" contextShape) ["contexts"] ++
    optional .text ["current-context", "kind", "apiVersion"] ++
    optional extensionsShape ["extensions"])

end FaasOperator.Kubeconfig
