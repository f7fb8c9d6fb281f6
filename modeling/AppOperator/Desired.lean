import AppOperator.Resource
import AppOperator.Declaration

/-!
# Desired objects

The objects that a declaration owns: a workload that runs its image, an endpoint
in front of the workload, and a route to the endpoint under a route class.  Each
carries a reference to the declaration, through which its events lead back.
-/

set_option autoImplicit false

namespace AppOperator

namespace Declaration

/-- The labels that the endpoint selects the workload's instances by. -/
def selectorLabels (d : Declaration) : Json :=
  .obj [("app", .str d.name)]

def routeName (d : Declaration) : String :=
  d.name ++ "-ingress"

def routeHost (d : Declaration) : String :=
  d.name ++ ".local"

/-- The reference from an owned object to the declaration that controls it. -/
def ownerReference (d : Declaration) : Json :=
  .obj [("apiVersion", .str apiVersion), ("kind", .str declarationKind), ("name", .str d.name),
    ("uid", .str d.uid), ("controller", .bool true), ("blockOwnerDeletion", .bool true)]

/-- The identity of an owned object. -/
def ownedMetadata (d : Declaration) (name : String) : Fields :=
  [("name", .str name), ("namespace", .str d.namespaceName),
    ("ownerReferences", .arr [d.ownerReference])]

def container (d : Declaration) : Json :=
  .obj [("name", .str "app"), ("image", .str d.spec.image),
    ("imagePullPolicy", .str "IfNotPresent"),
    ("ports", .arr [.obj [("containerPort", .int d.spec.containerPort)]])]

def workload (d : Declaration) : Json :=
  .obj [("apiVersion", .str "apps/v1"), ("kind", .str "Deployment"),
    ("metadata", .obj (d.ownedMetadata d.name)),
    ("spec", .obj [("replicas", .int d.spec.replicas),
      ("selector", .obj [("matchLabels", d.selectorLabels)]),
      ("template", .obj [("metadata", .obj [("labels", d.selectorLabels)]),
        ("spec", .obj [("containers", .arr [d.container])])])])]

/-- The one port mapping of the endpoint. -/
def endpointPorts (d : Declaration) : Json :=
  .arr [.obj [("port", .int d.spec.servicePort), ("targetPort", .int d.spec.containerPort)]]

/-- The endpoint that forwards the service port to the container port. -/
def endpoint (d : Declaration) : Json :=
  .obj [("apiVersion", .str "v1"), ("kind", .str "Service"),
    ("metadata", .obj (d.ownedMetadata d.name)),
    ("spec", .obj [("type", .str "ClusterIP"), ("selector", d.selectorLabels),
      ("ports", d.endpointPorts)])]

/-- The older place of a route class, still read by some routers. -/
def olderClassField : String := "kubernetes.io/ingress.class"

/-- The rule that leads from the host of the application to its endpoint. -/
def routeRule (d : Declaration) : Json :=
  .obj [("host", .str d.routeHost),
    ("http", .obj [("paths", .arr [.obj [("path", .str "/"), ("pathType", .str "Prefix"),
      ("backend", .obj [("service", .obj [("name", .str d.name),
        ("port", .obj [("number", .int d.spec.servicePort)])])])]])])]

/-- The route to the endpoint under a class. -/
def route (d : Declaration) (routeClass : String) : Json :=
  .obj [("apiVersion", .str "networking.k8s.io/v1"), ("kind", .str "Ingress"),
    ("metadata", .obj (d.ownedMetadata d.routeName
      ++ [("annotations", .obj [(olderClassField, .str routeClass)])])),
    ("spec", .obj [("ingressClassName", .str routeClass), ("rules", .arr [d.routeRule])])]

end Declaration

end AppOperator
